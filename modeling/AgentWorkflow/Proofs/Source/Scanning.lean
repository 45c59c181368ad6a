import Mathlib.Tactic.SplitIfs
import AgentWorkflow.Proofs.Source.LineEnds
import AgentWorkflow.Source.Literal

/-!
# What a text spells

A scanner reads a program from its first point to its last, so what it makes of a stretch could
depend on everything before. This module shows that it does not: a stretch that begins outside
literals and comments and ends there gives the same pieces wherever it stands. Programs can then be
read piecemeal.

Results:
1. `Scanner.Follows.foldl_read`: two scanners that differ only in line numbers and in what lies
   behind them stay so.
2. `Spells.append`: the pieces of a text put together are the pieces of its parts.
3. `spells_of_ofLines`, `elements_of_spells`: the pieces of a text are those that a scan finds in it.
-/

namespace AgentWorkflow

namespace Source

/-- What stands outside the literals and comments of a program, in order. -/
def elements (t : Text) : List Piece := (scan t).pieces.reverse.map (·.value)

/-- The same of lines that line feeds end. -/
def lineElements (t : Text) : List Piece := (Scanner.ofLines t).pieces.reverse.map (·.value)

/-! ## Scanners -/

/-- The mode without the line on which a literal began. -/
def Mode.unplaced : Mode → Mode
  | .opening quote quotes _ => .opening quote quotes 0
  | .short quote _ => .short quote 0
  | .shortEscape quote _ => .shortEscape quote 0
  | .long quote quotes _ => .long quote quotes 0
  | .longEscape quote _ => .longEscape quote 0
  | .brokenLiteral _ => .brokenLiteral 0
  | m => m

theorem Mode.unplaced_eq_code {m : Mode} : m.unplaced = .code ↔ m = .code := by
  cases m <;> simp [Mode.unplaced]

namespace Scanner

/-- The pieces so far without their lines, the last one first. -/
def values (s : Scanner) : List Piece := s.pieces.map (·.value)

variable (s : Scanner) (m : Mode) (n : Nat) (p : Piece)

@[simp] theorem mode_goto : (s.goto m).mode = m := rfl
@[simp] theorem mode_nextLine : (s.nextLine m).mode = m := rfl
@[simp] theorem mode_keep : (s.keep n p).mode = .code := rfl
@[simp] theorem mode_endLine : s.endLine.mode = .code := rfl
@[simp] theorem mode_joinLine : s.joinLine.mode = .code := rfl
@[simp] theorem values_goto : (s.goto m).values = s.values := rfl
@[simp] theorem values_nextLine : (s.nextLine m).values = s.values := rfl
@[simp] theorem values_keep : (s.keep n p).values = p :: s.values := rfl
@[simp] theorem values_endLine : s.endLine.values = .lineEnd :: s.values := rfl
@[simp] theorem values_joinLine : s.joinLine.values = .joint :: s.values := rfl

theorem read_code {s : Scanner} (h : s.mode = .code) (c : CodePoint) : s.read c = s.readCode c := by
  simp [Scanner.read, h]

/-- `Follows rest a b`: the two scanners are in the same mode, and `b` has kept what `a` has kept
and `rest` before it. Lines play no part. -/
structure Follows (rest : List Piece) (a b : Scanner) : Prop where
  mode : b.mode.unplaced = a.mode.unplaced
  values : b.values = a.values ++ rest

namespace Follows

variable {rest : List Piece} {a b : Scanner}

theorem readCode (h : Follows rest a b) (c : CodePoint) :
    Follows rest (a.readCode c) (b.readCode c) := by
  have hv := h.values
  simp only [Scanner.readCode]
  split_ifs <;> constructor <;> simp [Mode.unplaced, hv]

theorem readShort (h : Follows rest a b) (quote : CodePoint) (m n : Nat) (c : CodePoint) :
    Follows rest (a.readShort quote m c) (b.readShort quote n c) := by
  have hv := h.values
  simp only [Scanner.readShort]
  split_ifs <;> constructor <;> simp [Mode.unplaced, hv]

theorem readLong (h : Follows rest a b) (quote : CodePoint) (quotes m n : Nat) (c : CodePoint) :
    Follows rest (a.readLong quote quotes m c) (b.readLong quote quotes n c) := by
  have hv := h.values
  simp only [Scanner.readLong]
  split_ifs <;> constructor <;> simp [Mode.unplaced, hv]

/-- One point, read with and without pieces kept before. -/
theorem read (h : Follows rest a b) (c : CodePoint) : Follows rest (a.read c) (b.read c) := by
  have hm := h.mode
  have hv := h.values
  cases ha : a.mode <;> cases hb : b.mode <;> simp [ha, hb, Mode.unplaced] at hm <;>
    simp only [Scanner.read, ha, hb]
  case code.code => exact h.readCode c
  case opening.opening _ _ m quote quotes n =>
    obtain ⟨rfl, rfl⟩ := hm
    by_cases hc : c = quote
    · by_cases hq : quotes = 2 <;> constructor <;> simp [hc, hq, Mode.unplaced, hv]
    · by_cases hq : quotes = 2
      · -- The literal was empty, and the point counts as code.
        have hk : Follows rest (a.keep m .literal) (b.keep n .literal) := ⟨rfl, by simp [hv]⟩
        simpa only [if_neg hc, if_pos hq] using hk.readCode c
      · simpa only [if_neg hc, if_neg hq] using h.readShort quote m n c
  case short.short _ m quote n =>
    subst hm
    exact h.readShort quote m n c
  case long.long _ _ m quote quotes n =>
    obtain ⟨rfl, rfl⟩ := hm
    exact h.readLong quote quotes m n c
  case brokenLiteral.brokenLiteral | brokenJoint.brokenJoint | brokenText.brokenText => exact h
  all_goals split_ifs <;> constructor <;> simp_all [Mode.unplaced]

theorem foldl_read (h : Follows rest a b) (t : Text) :
    Follows rest (t.foldl Scanner.read a) (t.foldl Scanner.read b) := by
  induction t generalizing a b with
  | nil => exact h
  | cons c t ih => exact ih (h.read c)

end Follows

end Scanner

/-! ## Spelling -/

/-- `Spells t ps`: wherever `t` stands in code, a scanner gets through it, keeps the pieces `ps`
and is in code again. -/
def Spells (t : Text) (ps : List Piece) : Prop :=
  ∀ s : Scanner, s.mode = .code →
    (t.foldl Scanner.read s).mode = .code ∧
      (t.foldl Scanner.read s).values = ps.reverse ++ s.values

theorem spells_nil : Spells [] [] := fun _ h => ⟨h, rfl⟩

theorem Spells.append {t u : Text} {ps qs : List Piece} (ht : Spells t ps) (hu : Spells u qs) :
    Spells (t ++ u) (ps ++ qs) := by
  intro s hs
  obtain ⟨hm, hv⟩ := ht s hs
  obtain ⟨hm', hv'⟩ := hu _ hm
  rw [List.foldl_append]
  exact ⟨hm', by simp [hv', hv]⟩

/-- What a scanner makes of a text alone tells what it spells anywhere. -/
theorem spells_of_ofLines {t : Text} (h : (Scanner.ofLines t).mode = .code) :
    Spells t (lineElements t) := by
  intro s hs
  have start : Scanner.Follows s.values {} s := ⟨by simp [hs], rfl⟩
  have finish := start.foldl_read t
  refine ⟨?_, ?_⟩
  · rw [← Mode.unplaced_eq_code, finish.mode, Mode.unplaced_eq_code]
    exact h
  · rw [finish.values]
    simp [lineElements, Scanner.ofLines, Scanner.values, List.map_reverse]

/-- A clean text that spells something is read to its end. -/
theorem Spells.mode_scan {t : Text} {ps : List Piece} (h : Spells t ps) (clean : t.isClean) :
    (scan t).mode = .code := by
  rw [scan_of_isClean clean]
  exact (h {} rfl).1

theorem elements_of_spells {t : Text} {ps : List Piece} (h : Spells t ps) (clean : t.isClean) :
    elements t = ps := by
  have hv := (h {} rfl).2
  simp only [Scanner.values, List.map_nil, List.append_nil] at hv
  simp [elements, scan_of_isClean clean, Scanner.ofLines, List.map_reverse, hv]

/-! ## Points that stand for themselves -/

/-- True of a point that a scanner keeps as it is: it begins no literal and no comment, and ends
and joins no line. -/
def isPlain (c : CodePoint) : Bool :=
  !(c = '"' || c = '\'' || c = '#' || c = '\\' || c = '\n')

theorem readCode_of_isPlain {s : Scanner} {c : CodePoint} (h : isPlain c) :
    s.readCode c = s.keep s.line (.point c) := by
  simp only [isPlain, Bool.not_eq_true', Bool.or_eq_false_iff, decide_eq_false_iff_not] at h
  simp [Scanner.readCode, h]

theorem spells_of_isPlain {t : Text} (h : ∀ c ∈ t, isPlain c) : Spells t (t.map .point) := by
  induction t with
  | nil => exact spells_nil
  | cons c t ih =>
    have head : Spells [c] [.point c] := by
      intro s hs
      simp [Scanner.read_code hs, readCode_of_isPlain (h c List.mem_cons_self)]
    simpa using head.append (ih fun d hd => h d (List.mem_cons_of_mem c hd))

theorem spells_newline : Spells "\n" [.lineEnd] := by
  intro s hs
  have hread : s.read '\n' = s.endLine := by rw [Scanner.read_code hs]; rfl
  change (s.read '\n').mode = _ ∧ (s.read '\n').values = _
  simp [hread]

/-- Nothing of a comment is kept but the end of its line. -/
theorem spells_comment {t : Text} (h : ('\n' : CodePoint) ∉ t) :
    Spells ("#" ++ t ++ "\n") [.lineEnd] := by
  intro s hs
  have opened : ("#" : Text).foldl Scanner.read s = s.goto .comment := by
    change s.read '#' = _
    rw [Scanner.read_code hs]
    rfl
  have inside : t.foldl Scanner.read (s.goto .comment) = s.goto .comment := by
    induction t with
    | nil => rfl
    | cons c t ih =>
      obtain ⟨hc, ht⟩ := not_or.mp (mt List.mem_cons.mpr h)
      rw [List.foldl_cons, show (s.goto .comment).read c = s.goto .comment from
        if_neg fun e => hc e.symm]
      exact ih ht
  rw [List.foldl_append, List.foldl_append, opened, inside]
  exact ⟨rfl, rfl⟩

end Source

end AgentWorkflow
