import AgentWorkflow.Proofs.Source.Reading
import AgentWorkflow.Proofs.Source.Scanning

/-!
# The pieces of leaves

A reader and a scanner go through a program side by side. Where the reader keeps a leaf, the scanner
keeps the pieces that the leaf is made of, so what is known of the leaves of a program tells its
pieces.

Results:
1. `Beside.foldl_read`: a reader and a scanner that stand side by side stay so.
2. `spells_of_reads`: the pieces of a text that is read.
3. `areProper_of_reads`: the leaves of a text hold nothing that they do not say.
-/

namespace AgentWorkflow

namespace Source

/-! ## Leaves -/

mutual

def Leaf.pieces : Leaf → List Piece
  | .point c | .opened c => [.point c]
  | .text _ => [.literal]
  | .group c inner => .point c :: (pieces inner ++ [.point ((closing? c).getD c)])
  | .lineEnd => [.lineEnd]

def pieces : List Leaf → List Piece
  | [] => []
  | l :: run => l.pieces ++ pieces run

end

mutual

/-- True of a leaf that is closed and whose points stand for themselves. -/
def Leaf.isProper : Leaf → Bool
  | .point c => isBare c
  | .text _ | .lineEnd => true
  | .group c inner => (closing? c).isSome && areProper inner
  | .opened _ => false

def areProper : List Leaf → Bool
  | [] => true
  | l :: run => l.isProper && areProper run

end

theorem pieces_append (run run' : List Leaf) :
    pieces (run ++ run') = pieces run ++ pieces run' := by
  induction run with
  | nil => rfl
  | cons l run ih => rw [List.cons_append, pieces, pieces, ih, List.append_assoc]

theorem pieces_points (t : Text) : pieces (t.map .point) = t.map .point := by
  induction t with
  | nil => rfl
  | cons c t ih =>
    rw [List.map_cons, pieces, ih]
    rfl

theorem areProper_iff {run : List Leaf} : areProper run ↔ ∀ l ∈ run, l.isProper := by
  induction run with
  | nil => simp [areProper]
  | cons l run ih => simp [areProper, ih]

/-! ## Side by side -/

/-- The mode of a scanner that accompanies a reader. -/
def ReadMode.scanned : ReadMode → Mode
  | .code => .code
  | .comment => .comment
  | .opening quotes => .opening '"' quotes 0
  | .inside false _ _ | .hex false _ _ => .short '"' 0
  | .inside true quotes _ => .long '"' quotes 0
  | .escape false _ => .shortEscape '"' 0
  | .escape true _ => .longEscape '"' 0
  | .hex true _ _ => .long '"' 0 0
  | .broken => .brokenJoint

theorem exists_short {mode : Mode} {quote : CodePoint} (h : mode.unplaced = .short quote 0) :
    ∃ start, mode = .short quote start := by
  cases mode <;> simp_all [Mode.unplaced]

theorem exists_long {mode : Mode} {quote : CodePoint} {quotes : Nat}
    (h : mode.unplaced = .long quote quotes 0) : ∃ start, mode = .long quote quotes start := by
  cases mode <;> simp_all [Mode.unplaced]

/-- True of a leaf that a reader keeps, closed or not. -/
def Leaf.isKept : Leaf → Bool
  | .opened c => (closing? c).isSome
  | l => l.isProper

/-- `Beside r s`: the scanner is inside of what the reader is inside of, and has kept the pieces of
its leaves. -/
structure Beside (r : Reader) (s : Scanner) : Prop where
  mode : s.mode.unplaced = r.mode.scanned
  values : s.values = (pieces r.leaves.reverse).reverse
  kept : ∀ l ∈ r.leaves, l.isKept

/-- Closing a group changes the shape of the leaves, and not the pieces they come from. -/
theorem pieces_of_closeGroup {closing : CodePoint} {inner leaves leaves' : List Leaf}
    (h : closeGroup closing inner leaves = some leaves') :
    pieces leaves'.reverse = pieces leaves.reverse ++ pieces inner ++ [.point closing] := by
  induction leaves generalizing inner with
  | nil => cases h
  | cons l leaves ih =>
    cases l with
    | opened c =>
      simp only [closeGroup] at h
      split at h
      · next pair =>
        cases h
        simp [pieces_append, pieces, Leaf.pieces, pair]
      · cases h
    | _ =>
      have lower := ih h
      simpa [pieces_append, pieces] using lower

theorem isKept_of_closeGroup {closing : CodePoint} {inner leaves leaves' : List Leaf}
    (h : closeGroup closing inner leaves = some leaves') (kept : ∀ l ∈ leaves, l.isKept)
    (proper : areProper inner) : ∀ l ∈ leaves', l.isKept := by
  induction leaves generalizing inner with
  | nil => cases h
  | cons l leaves ih =>
    obtain ⟨first, rest⟩ := List.forall_mem_cons.mp kept
    cases l with
    | opened c =>
      simp only [closeGroup] at h
      split at h
      · cases h
        refine List.forall_mem_cons.mpr ⟨?_, rest⟩
        have opening : (closing? c).isSome = true := first
        simp [Leaf.isKept, Leaf.isProper, opening, proper]
      · cases h
    | _ =>
      refine ih h rest ?_
      rw [areProper, proper, Bool.and_true]
      exact first

namespace Beside

variable {r : Reader} {s : Scanner} {c : CodePoint}

theorem keep (h : Beside r s) {l : Leaf} (kept : l.isKept) {n : Nat} {p : Piece}
    (one : l.pieces = [p]) : Beside (r.keep l) (s.keep n p) := by
  refine ⟨rfl, ?_, List.forall_mem_cons.mpr ⟨kept, h.kept⟩⟩
  simp [Reader.keep, pieces_append, pieces, one, h.values]

theorem goto (h : Beside r s) {mode : ReadMode} {mode' : Mode}
    (same : mode'.unplaced = mode.scanned) : Beside (r.goto mode) (s.goto mode') :=
  ⟨same, h.values, h.kept⟩

theorem nextLine (h : Beside r s) {mode : ReadMode} {mode' : Mode}
    (same : mode'.unplaced = mode.scanned) : Beside (r.goto mode) (s.nextLine mode') :=
  ⟨same, h.values, h.kept⟩

theorem endLine (h : Beside r s) : Beside (r.keep .lineEnd) s.endLine :=
  (h.keep (n := s.line) rfl rfl).nextLine rfl

/-- The step in code, where groups are opened and closed. -/
theorem readCode (h : Beside r s) (unbroken : (r.readCode c).mode ≠ .broken) :
    Beside (r.readCode c) (s.readCode c) := by
  simp only [Reader.readCode] at unbroken ⊢
  split_ifs at unbroken ⊢ with quote hash newline broken opening closing
  · subst quote
    exact h.goto rfl
  · subst hash
    exact h.goto rfl
  · subst newline
    exact h.endLine
  · exact absurd rfl unbroken
  all_goals
    simp only [Bool.or_eq_true, decide_eq_true_eq, not_or] at broken
    obtain ⟨⟨backslash, apostrophe⟩, control⟩ := broken
    rw [readCode_of_isPlain (by simp [isPlain, quote, hash, newline, backslash, apostrophe])]
  · exact h.keep (l := .opened c) opening rfl
  · cases taken : closeGroup c [] r.leaves with
    | none =>
      rw [taken] at unbroken
      exact absurd rfl unbroken
    | some leaves =>
      refine ⟨rfl, ?_, isKept_of_closeGroup taken h.kept rfl⟩
      simp [pieces_of_closeGroup taken, h.values, pieces]
  · have bare : isBare c := by
      simp [isBare, quote, hash, backslash, apostrophe, control, opening, closing]
    exact h.keep (l := .point c) bare rfl

/-- The step in a literal on one line. -/
theorem readShort (h : Beside r s) {quotes start : Nat} {content : Text}
    (unbroken : (r.readInside false quotes content c).mode ≠ .broken) :
    Beside (r.readInside false quotes content c) (s.readShort '"' start c) := by
  simp only [Reader.readInside, Bool.not_false, Bool.true_or, if_true] at unbroken ⊢
  simp only [Scanner.readShort]
  split_ifs at unbroken ⊢ with quote backslash control newline newline
  · exact h.keep rfl rfl
  · exact h.goto rfl
  · exact absurd rfl unbroken
  · exact absurd rfl unbroken
  · subst newline
    exact absurd rfl control
  · exact h.goto rfl

/-- The step in a literal that goes over lines. -/
theorem readLong (h : Beside r s) {quotes start : Nat} {content : Text}
    (unbroken : (r.readInside true quotes content c).mode ≠ .broken) :
    Beside (r.readInside true quotes content c) (s.readLong '"' quotes start c) := by
  simp only [Reader.readInside, Bool.not_true, Bool.false_or, Bool.true_and, decide_eq_true_eq]
    at unbroken ⊢
  simp only [Scanner.readLong]
  split_ifs at unbroken ⊢ with quote last backslash control newline newline
  · exact h.keep rfl rfl
  · exact h.goto rfl
  · exact h.goto rfl
  · exact absurd rfl unbroken
  · exact absurd rfl unbroken
  · exact h.nextLine rfl
  · exact h.goto rfl

/-- Behind an escape, or a part of one, a literal goes on. -/
theorem exists_goto_readEscape {long : Bool} {content : Text}
    (unbroken : (r.readEscape long content c).mode ≠ .broken) :
    ∃ mode, r.readEscape long content c = r.goto mode ∧
      (ReadMode.inside long 0 []).scanned = mode.scanned := by
  simp only [Reader.readEscape] at unbroken ⊢
  by_cases number : c = 'x'
  · exact ⟨_, if_pos number, by cases long <;> rfl⟩
  · rw [if_neg number] at unbroken ⊢
    cases point : escapedPoint? c with
    | some t => exact ⟨_, rfl, by cases long <;> rfl⟩
    | none =>
      rw [point] at unbroken
      exact absurd rfl unbroken

theorem ne_of_hexValue? {d : Nat} (digit : c.hexValue? = some d) (e : CodePoint)
    (none : e.hexValue? = none) : c ≠ e := by
  rintro rfl
  rw [none] at digit
  cases digit

theorem exists_goto_readHex {long : Bool} {content : Text} {first : Option Nat}
    (unbroken : (r.readHex long content first c).mode ≠ .broken) :
    (∃ d, c.hexValue? = some d) ∧ ∃ mode, r.readHex long content first c = r.goto mode ∧
      (ReadMode.inside long 0 []).scanned = mode.scanned := by
  simp only [Reader.readHex] at unbroken ⊢
  cases digit : c.hexValue? with
  | none =>
    rw [digit] at unbroken
    exact absurd rfl unbroken
  | some d => cases first <;> exact ⟨⟨d, rfl⟩, _, rfl, by cases long <;> rfl⟩

/-- The step between the quotes that may begin a literal. -/
theorem read_opening {quotes : Nat} {leaves : List Leaf}
    (h : Beside ⟨.opening quotes, leaves⟩ s)
    (unbroken : (Reader.read ⟨.opening quotes, leaves⟩ c).mode ≠ .broken) :
    Beside (Reader.read ⟨.opening quotes, leaves⟩ c) (s.read c) := by
  obtain ⟨mode, line, kept⟩ := s
  have same := h.mode
  obtain ⟨start, rfl⟩ : ∃ start, mode = .opening '"' quotes start := by
    cases mode <;> simp_all [Mode.unplaced, ReadMode.scanned]
  simp only [Reader.read, Scanner.read] at unbroken ⊢
  by_cases quote : c = '"'
  · by_cases long : quotes = 2
    · simp only [if_pos quote, if_pos long]
      exact h.goto rfl
    · simp only [if_pos quote, if_neg long]
      exact h.goto rfl
  · by_cases empty : quotes = 2
    · simp only [if_neg quote, if_pos empty] at unbroken ⊢
      exact (h.keep (l := .text []) rfl rfl).readCode unbroken
    · simp only [if_neg quote, if_neg empty] at unbroken ⊢
      exact h.readShort unbroken

/-- The step behind a backslash. -/
theorem read_escape {long : Bool} {content : Text} {leaves : List Leaf}
    (h : Beside ⟨.escape long content, leaves⟩ s)
    (unbroken : (Reader.read ⟨.escape long content, leaves⟩ c).mode ≠ .broken) :
    Beside (Reader.read ⟨.escape long content, leaves⟩ c) (s.read c) := by
  obtain ⟨mode', line, kept⟩ := s
  have same := h.mode
  obtain ⟨mode, next, scanned⟩ := exists_goto_readEscape unbroken
  simp only [Reader.read, next]
  cases long with
  | false =>
    obtain ⟨start, rfl⟩ : ∃ start, mode' = .shortEscape '"' start := by
      cases mode' <;> simp_all [Mode.unplaced, ReadMode.scanned]
    simp only [Scanner.read]
    split
    · exact h.nextLine scanned
    · exact h.goto scanned
  | true =>
    obtain ⟨start, rfl⟩ : ∃ start, mode' = .longEscape '"' start := by
      cases mode' <;> simp_all [Mode.unplaced, ReadMode.scanned]
    simp only [Scanner.read]
    split
    · exact h.nextLine scanned
    · exact h.goto scanned

/-- The step in the digits of an escape, which a scanner takes for points of the literal. -/
theorem read_hex {long : Bool} {content : Text} {first : Option Nat} {leaves : List Leaf}
    (h : Beside ⟨.hex long content first, leaves⟩ s)
    (unbroken : (Reader.read ⟨.hex long content first, leaves⟩ c).mode ≠ .broken) :
    Beside (Reader.read ⟨.hex long content first, leaves⟩ c) (s.read c) := by
  obtain ⟨mode', line, kept⟩ := s
  have same := h.mode
  obtain ⟨⟨d, digit⟩, mode, next, scanned⟩ := exists_goto_readHex unbroken
  simp only [Reader.read, next]
  cases long with
  | false =>
    obtain ⟨start, rfl⟩ := exists_short same
    simp only [Scanner.read]
    rw [Scanner.readShort, if_neg (ne_of_hexValue? digit '"' rfl),
      if_neg (ne_of_hexValue? digit '\\' rfl), if_neg (ne_of_hexValue? digit '\n' rfl)]
    exact h.goto scanned
  | true =>
    obtain ⟨start, rfl⟩ := exists_long same
    simp only [Scanner.read]
    rw [Scanner.readLong, if_neg (ne_of_hexValue? digit '"' rfl),
      if_neg (ne_of_hexValue? digit '\\' rfl), if_neg (ne_of_hexValue? digit '\n' rfl)]
    exact h.goto scanned

/-- One point, read by reader and scanner. They stay beside one another unless the reader
breaks off, so the pieces can be taken from the leaves. -/
theorem read (h : Beside r s) (unbroken : (r.read c).mode ≠ .broken) :
    Beside (r.read c) (s.read c) := by
  obtain ⟨mode, leaves⟩ := r
  cases mode with
  | code =>
    obtain ⟨mode', line, kept⟩ := s
    obtain rfl : mode' = .code := Mode.unplaced_eq_code.mp h.mode
    exact h.readCode unbroken
  | comment =>
    obtain ⟨mode', line, kept⟩ := s
    have same := h.mode
    obtain rfl : mode' = .comment := by cases mode' <;> simp_all [Mode.unplaced, ReadMode.scanned]
    simp only [Reader.read, Scanner.read]
    split
    · exact h.endLine
    · exact h
  | opening quotes => exact h.read_opening unbroken
  | inside long quotes content =>
    obtain ⟨mode', line, kept⟩ := s
    cases long with
    | false =>
      obtain ⟨start, rfl⟩ := exists_short h.mode
      exact h.readShort unbroken
    | true =>
      obtain ⟨start, rfl⟩ := exists_long h.mode
      exact h.readLong unbroken
  | escape long content => exact h.read_escape unbroken
  | hex long content first => exact h.read_hex unbroken
  | broken => exact absurd rfl unbroken

theorem foldl_read (h : Beside r s) {t : Text}
    (unbroken : (t.foldl Reader.read r).mode ≠ .broken) :
    Beside (t.foldl Reader.read r) (t.foldl Scanner.read s) := by
  induction t generalizing r s with
  | nil => exact h
  | cons c t ih =>
    have step : (r.read c).mode ≠ .broken := fun broken => unbroken (by
      rw [List.foldl_cons, Reader.foldl_read_broken broken]
      exact broken)
    exact ih (h.read step) unbroken

end Beside

/-! ## Texts that are read -/

theorem beside_of_reads {t : Text} {ls : List Leaf} (h : Reads t ls) :
    Beside ⟨.code, ls.reverse⟩ (.ofLines t) := by
  have start : Beside {} {} := ⟨rfl, rfl, List.forall_mem_nil _⟩
  have ran : t.foldl Reader.read {} = ⟨.code, ls.reverse⟩ := by
    rw [h.foldl_read {} rfl, List.append_nil]
  rw [← ran]
  refine start.foldl_read ?_
  rw [ran]
  exact nofun

/-- A text that is read spells the pieces of its leaves. -/
theorem spells_of_reads {t : Text} {ls : List Leaf} (h : Reads t ls) : Spells t (pieces ls) := by
  have beside := beside_of_reads h
  have closed : (Scanner.ofLines t).mode = .code := Mode.unplaced_eq_code.mp beside.mode
  have values : lineElements t = pieces ls := by
    have kept := beside.values
    rw [List.reverse_reverse] at kept
    simp only [lineElements, List.map_reverse]
    exact List.reverse_eq_iff.mpr kept
  exact values ▸ spells_of_ofLines closed

theorem areProper_of_reads {t : Text} {ls : List Leaf} (h : Reads t ls) : areProper ls := by
  refine areProper_iff.mpr fun l hl => ?_
  have kept := (beside_of_reads h).kept l (List.mem_reverse.mpr hl)
  have closed := h.whole l hl
  cases l with
  | opened c => cases closed
  | _ => exact kept

end Source

end AgentWorkflow
