import AgentWorkflow.Proofs.Source.Literals
import AgentWorkflow.Source.Bracket

/-!
# What a program says

A reader takes a program apart into leaves: points, literals with the text that they stand for,
brackets with what they hold, and the ends of lines. Comments are dropped. The reader decodes the
escapes that stand for one point each and gives up on everything else that it does not know: other
escapes, literals between apostrophes, joined lines, control characters. What it accepts it reads as
the language defines it.

A literal with a prefix in front of it is left behind the points of its prefix.

Results:
1. `reads_of_run`: a text that is read from nothing is read the same way wherever it stands in code.
2. `awaits_literal`, `reads_docstring_behind`, `awaits_multilineLiteral_behind`: a text comes back
   from each of its renderings, whatever its margin.
3. `reads_group`: brackets around a text hold the leaves of the text.
4. `read?_of_reads`: the leaves of a whole program.
-/

namespace AgentWorkflow

namespace Source

/-! ## Reading -/

/-- A part of a program. An open bracket is one that is not closed yet. -/
inductive Leaf
  | point (c : CodePoint)
  | text (t : Text)
  | group (opening : CodePoint) (inner : List Leaf)
  | opened (c : CodePoint)
  | lineEnd

/-- True of a bracket that is not closed yet. -/
def Leaf.isOpened : Leaf → Bool
  | .opened _ => true
  | _ => false

/-- What a reader is inside of. The content of a literal has its last point first; `quotes` counts
the quotes just read. -/
inductive ReadMode
  | code
  | comment
  | opening (quotes : Nat)
  | inside (long : Bool) (quotes : Nat) (content : Text)
  | escape (long : Bool) (content : Text)
  | hex (long : Bool) (content : Text) (first : Option Nat)
  | broken
deriving DecidableEq

/-- The point that an escape of two points stands for, none if a line goes on behind it. -/
def escapedPoint? (c : CodePoint) : Option Text :=
  if c = 'n' then some "\n"
  else if c = 'r' then some "\r"
  else if c = 't' then some "\t"
  else if c = '\\' || c = '"' || c = '\'' then some [c]
  else if c = '\n' then some []
  else none

/-- The leaves behind a closing bracket, where `inner` holds those in front of it. -/
def closeGroup (closing : CodePoint) (inner : List Leaf) : List Leaf → Option (List Leaf)
  | [] => none
  | .opened c :: rest => if closing? c = some closing then some (.group c inner :: rest) else none
  | l :: rest => closeGroup closing (l :: inner) rest

/-- A reader: its mode and the leaves so far, the last one first. -/
structure Reader where
  mode : ReadMode := .code
  leaves : List Leaf := []

namespace Reader

def goto (r : Reader) (mode : ReadMode) : Reader := { r with mode := mode }

def keep (r : Reader) (l : Leaf) : Reader := { mode := .code, leaves := l :: r.leaves }

/-- Reads a point outside literals and comments. -/
def readCode (r : Reader) (c : CodePoint) : Reader :=
  if c = '"' then r.goto (.opening 1)
  else if c = '#' then r.goto .comment
  else if c = '\n' then r.keep .lineEnd
  else if c = '\\' || c = '\'' || c.val < 0x20 then r.goto .broken
  else if (closing? c).isSome then r.keep (.opened c)
  else if isClosing c then
    match closeGroup c [] r.leaves with
    | some leaves => { mode := .code, leaves }
    | none => r.goto .broken
  else r.keep (.point c)

/-- Reads a point of a literal. -/
def readInside (r : Reader) (long : Bool) (quotes : Nat) (content : Text) (c : CodePoint) :
    Reader :=
  if c = '"' then
    if !long || quotes = 2 then r.keep (.text content.reverse)
    else r.goto (.inside long (quotes + 1) content)
  else
    let content := List.replicate quotes ('"' : CodePoint) ++ content
    if c = '\\' then r.goto (.escape long content)
    else if c.val < 0x20 && !(long && c = '\n') then r.goto .broken
    else r.goto (.inside long 0 (c :: content))

def readEscape (r : Reader) (long : Bool) (content : Text) (c : CodePoint) : Reader :=
  if c = 'x' then r.goto (.hex long content none)
  else match escapedPoint? c with
    | some t => r.goto (.inside long 0 (t ++ content))
    | none => r.goto .broken

/-- Reads a digit of an escape by number. -/
def readHex (r : Reader) (long : Bool) (content : Text) (first : Option Nat) (c : CodePoint) :
    Reader :=
  match c.hexValue?, first with
  | none, _ => r.goto .broken
  | some d, none => r.goto (.hex long content (some d))
  | some d, some first => r.goto (.inside long 0 (CodePoint.ofNat (16 * first + d) :: content))

def read (r : Reader) (c : CodePoint) : Reader :=
  match r.mode with
  | .code => r.readCode c
  | .comment => if c = '\n' then r.keep .lineEnd else r
  | .opening quotes =>
    if c = '"' then r.goto (if quotes = 2 then .inside true 0 [] else .opening 2)
    else if quotes = 2 then (r.keep (.text [])).readCode c
    else r.readInside false 0 [] c
  | .inside long quotes content => r.readInside long quotes content c
  | .escape long content => r.readEscape long content c
  | .hex long content first => r.readHex long content first c
  | .broken => r

end Reader

def run (t : Text) : Reader := t.foldl Reader.read {}

/-- The leaves of a program whose literals and brackets are closed. -/
def read? (t : Text) : Option (List Leaf) :=
  if (run t).mode = .code && (run t).leaves.all (!·.isOpened) then some (run t).leaves.reverse
  else none

/-! ## Wherever a text stands -/

namespace Reader

variable {r : Reader} {below : List Leaf} {c : CodePoint}

/-- The reader with more leaves behind it. -/
def on (r : Reader) (below : List Leaf) : Reader := { r with leaves := r.leaves ++ below }

/-- Closing a group does not look below the bracket that opens it. -/
theorem closeGroup_append {closing : CodePoint} {inner leaves leaves' : List Leaf}
    (h : closeGroup closing inner leaves = some leaves') :
    closeGroup closing inner (leaves ++ below) = some (leaves' ++ below) := by
  induction leaves generalizing inner with
  | nil => cases h
  | cons l leaves ih =>
    cases l with
    | opened c =>
      simp only [closeGroup, List.cons_append] at h ⊢
      split at h
      · next pair =>
        cases h
        exact if_pos pair
      · cases h
    | _ => exact ih h

theorem readCode_on (h : (r.readCode c).mode ≠ .broken) :
    (r.on below).readCode c = (r.readCode c).on below := by
  unfold readCode at h ⊢
  split_ifs at h ⊢ with h₁ h₂ h₃ h₄ h₅ h₆ <;> try rfl
  -- a closing bracket takes its group from the reader's own leaves
  cases hg : closeGroup c [] r.leaves with
  | none =>
    rw [hg] at h
    exact absurd rfl h
  | some leaves =>
    have lower : closeGroup c [] (r.on below).leaves = some (leaves ++ below) :=
      closeGroup_append hg
    rw [lower]
    rfl

theorem readInside_on (long : Bool) (quotes : Nat) (content : Text) :
    (r.on below).readInside long quotes content c
      = (r.readInside long quotes content c).on below := by
  unfold readInside
  split_ifs <;> rfl

theorem readEscape_on (long : Bool) (content : Text) :
    (r.on below).readEscape long content c = (r.readEscape long content c).on below := by
  unfold readEscape
  split
  · rfl
  · split <;> rfl

theorem readHex_on (long : Bool) (content : Text) (first : Option Nat) :
    (r.on below).readHex long content first c = (r.readHex long content first c).on below := by
  unfold readHex
  split <;> rfl

/-- What was read before does not matter to the next point: leaves below are carried along. -/
theorem read_on (h : (r.read c).mode ≠ .broken) :
    (r.on below).read c = (r.read c).on below := by
  obtain ⟨mode, leaves⟩ := r
  cases mode with
  | code => exact readCode_on h
  | comment =>
    simp only [read, on]
    split <;> rfl
  | opening quotes =>
    simp only [read, on] at h ⊢
    by_cases hc : c = '"'
    · simp only [if_pos hc]
      rfl
    by_cases hq : quotes = 2
    · simp only [if_neg hc, if_pos hq] at h ⊢
      exact readCode_on (r := keep ⟨.opening quotes, leaves⟩ (.text [])) h
    · simp only [if_neg hc, if_neg hq]
      exact readInside_on (r := ⟨.opening quotes, leaves⟩) false 0 []
  | inside long quotes content => exact readInside_on long quotes content
  | escape long content => exact readEscape_on long content
  | hex long content first => exact readHex_on long content first
  | broken => exact absurd rfl h

theorem foldl_read_broken (h : r.mode = .broken) (t : Text) : t.foldl read r = r := by
  induction t with
  | nil => rfl
  | cons c t ih =>
    have stuck : r.read c = r := by simp only [read, h]
    rw [List.foldl_cons, stuck, ih]

/-- The run of `read_on`: leaves below are carried through a text. -/
theorem foldl_read_on {t : Text} (h : (t.foldl read r).mode ≠ .broken) :
    t.foldl read (r.on below) = (t.foldl read r).on below := by
  induction t generalizing r with
  | nil => rfl
  | cons c t ih =>
    have step : (r.read c).mode ≠ .broken := fun broken => h (by
      rw [List.foldl_cons, foldl_read_broken broken]
      exact broken)
    rw [List.foldl_cons, read_on step]
    exact ih h

end Reader

/-- `Reads t ls`: wherever `t` stands in code, a reader gets through it, keeps the leaves `ls` and
is in code again, with no more brackets open than before. -/
structure Reads (t : Text) (ls : List Leaf) : Prop where
  whole : ∀ l ∈ ls, l.isOpened = false
  foldl_read : ∀ r : Reader, r.mode = .code →
    t.foldl Reader.read r = { mode := .code, leaves := ls.reverse ++ r.leaves }

theorem reads_nil : Reads [] [] := by
  refine ⟨fun l hl => absurd hl List.not_mem_nil, ?_⟩
  rintro ⟨mode, leaves⟩ rfl
  rfl

theorem Reads.append {t u : Text} {ls ks : List Leaf} (ht : Reads t ls) (hu : Reads u ks) :
    Reads (t ++ u) (ls ++ ks) := by
  refine ⟨fun l hl => (List.mem_append.mp hl).elim (ht.whole l) (hu.whole l), fun r hr => ?_⟩
  rw [List.foldl_append, ht.foldl_read r hr, hu.foldl_read _ rfl, List.reverse_append,
    List.append_assoc]

theorem Reads.cons {c : CodePoint} {t : Text} {l : Leaf} {ls : List Leaf}
    (hc : Reads [c] [l]) (ht : Reads t ls) : Reads (c :: t) (l :: ls) := hc.append ht

/-- A run from nothing tells what a text reads anywhere. -/
theorem reads_of_run {t : Text} (hm : (run t).mode = .code)
    (hw : (run t).leaves.all (!·.isOpened)) : Reads t (run t).leaves.reverse := by
  refine ⟨fun l hl => by simpa using List.all_eq_true.mp hw l (List.mem_reverse.mp hl), ?_⟩
  rintro ⟨mode, leaves⟩ rfl
  have unbroken : (t.foldl Reader.read {}).mode ≠ .broken := fun broken =>
    absurd (hm.symm.trans broken) (by decide)
  have lifted : t.foldl Reader.read ⟨.code, leaves⟩ = (run t).on leaves :=
    Reader.foldl_read_on unbroken
  rw [lifted, List.reverse_reverse]
  simp only [Reader.on, run] at hm ⊢
  rw [hm]

theorem read?_of_reads {t : Text} {ls : List Leaf} (h : Reads t ls) : read? t = some ls := by
  have ran : run t = { mode := .code, leaves := ls.reverse } := by
    rw [run, h.foldl_read {} rfl, List.append_nil]
  have closed : ls.reverse.all (!·.isOpened) = true := by
    simpa [List.all_eq_true] using h.whole
  simp only [read?, ran, closed, List.reverse_reverse]
  rfl

/-- `Awaits t ls`: as `Reads t ls`, once a point other than a quote follows. Behind an empty literal
a reader has to see one more point to know that it was not the beginning of a long one. -/
structure Awaits (t : Text) (ls : List Leaf) : Prop where
  whole : ∀ l ∈ ls, l.isOpened = false
  read : ∀ (r : Reader) (c : CodePoint), r.mode = .code → c ≠ '"' →
    (t.foldl Reader.read r).read c = Reader.read { mode := .code, leaves := ls.reverse ++ r.leaves } c

section Awaits

variable {t u : Text} {ls ks : List Leaf}

theorem Reads.awaits (h : Reads t ls) : Awaits t ls where
  whole := h.whole
  read r c hr _ := by rw [h.foldl_read r hr]

theorem Reads.append_awaits (ht : Reads t ls) (hu : Awaits u ks) : Awaits (t ++ u) (ls ++ ks) := by
  refine ⟨fun l hl => (List.mem_append.mp hl).elim (ht.whole l) (hu.whole l), fun r c hr hc => ?_⟩
  rw [List.foldl_append, ht.foldl_read r hr, hu.read _ c rfl hc, List.reverse_append,
    List.append_assoc]

theorem Awaits.append (ht : Awaits t ls) (hu : Reads u ks) (apart : startsApart u) :
    Reads (t ++ u) (ls ++ ks) := by
  refine ⟨fun l hl => (List.mem_append.mp hl).elim (ht.whole l) (hu.whole l), fun r hr => ?_⟩
  cases u with
  | nil => simp [startsApart] at apart
  | cons c u =>
    have hc : c ≠ '"' := by simpa [startsApart] using apart
    rw [List.foldl_append, List.foldl_cons, ht.read r c hr hc, ← List.foldl_cons,
      hu.foldl_read _ rfl, List.reverse_append, List.append_assoc]

end Awaits

/-! ## Points, ends of lines and comments -/

/-- True of a point that a reader keeps as it is. -/
def isBare (c : CodePoint) : Bool :=
  !(c = '"' || c = '#' || c = '\\' || c = '\'' || decide (c.val < 0x20) || (closing? c).isSome
    || isClosing c)

theorem reads_point {c : CodePoint} (h : isBare c) : Reads [c] [.point c] := by
  refine ⟨fun l hl => by rw [List.mem_singleton.mp hl]; rfl, ?_⟩
  rintro ⟨mode, leaves⟩ rfl
  simp only [isBare, Bool.not_eq_true', Bool.or_eq_false_iff, decide_eq_false_iff_not] at h
  obtain ⟨⟨⟨⟨⟨⟨quote, hash⟩, backslash⟩, apostrophe⟩, control⟩, opening⟩, closing⟩ := h
  have newline : c ≠ '\n' := fun e => control (by rw [e]; decide)
  simp only [List.foldl_cons, List.foldl_nil, Reader.read, Reader.readCode, quote, hash, newline,
    backslash, apostrophe, control, opening, closing]
  rfl

theorem reads_points {t : Text} (h : ∀ c ∈ t, isBare c) : Reads t (t.map .point) := by
  induction t with
  | nil => exact reads_nil
  | cons c t ih =>
    exact (reads_point (h c List.mem_cons_self)).cons
      (ih fun d hd => h d (List.mem_cons_of_mem c hd))

theorem reads_newline : Reads "\n" [.lineEnd] := by
  refine ⟨fun l hl => by rw [List.mem_singleton.mp hl]; rfl, ?_⟩
  rintro ⟨mode, leaves⟩ rfl
  rfl

def blankLeaves (level : Nat) : List Leaf := (indent level).map .point

def spaces (n : Nat) : Text := List.replicate n (' ' : CodePoint)

theorem reads_spaces (n : Nat) : Reads (spaces n) ((spaces n).map .point) :=
  reads_points fun c hc => by
    rw [List.eq_of_mem_replicate hc]
    decide

theorem reads_indent (level : Nat) : Reads (indent level) (blankLeaves level) := reads_spaces _

/-- A comment leaves nothing but the end of its line. -/
theorem reads_comment {t : Text} (h : ('\n' : CodePoint) ∉ t) :
    Reads ("#" ++ t ++ "\n") [.lineEnd] := by
  refine ⟨fun l hl => by rw [List.mem_singleton.mp hl]; rfl, ?_⟩
  rintro ⟨mode, leaves⟩ rfl
  have inside : t.foldl Reader.read ⟨.comment, leaves⟩ = ⟨.comment, leaves⟩ := by
    induction t with
    | nil => rfl
    | cons c t ih =>
      obtain ⟨hc, ht⟩ := not_or.mp (mt List.mem_cons.mpr h)
      rw [List.foldl_cons, show Reader.read ⟨.comment, leaves⟩ c = ⟨.comment, leaves⟩ from
        if_neg fun e => hc e.symm]
      exact ih ht
  have opened : ("#" : Text).foldl Reader.read ⟨.code, leaves⟩ = ⟨.comment, leaves⟩ := rfl
  rw [List.foldl_append, List.foldl_append, opened, inside]
  rfl

/-! ## Literals -/

section Literal

variable {leaves : List Leaf} {long : Bool} {content : Text}

/-- A point that means nothing inside a literal is read as itself. -/
theorem read_inner {c : CodePoint} (hq : c ≠ '"') (hb : c ≠ '\\') (hc : ¬c.val < 0x20) :
    Reader.read ⟨.inside long 0 content, leaves⟩ c = ⟨.inside long 0 (c :: content), leaves⟩ := by
  simp only [Reader.read, Reader.readInside, if_neg hq, if_neg hb, hc]
  rfl

theorem hexValue?_hex : ∀ n < 0x80,
    (Text.hex 2 n).map CodePoint.hexValue? = [some (n / 16), some (n % 16)] := by decide +kernel

theorem foldl_read_hex {n : Nat} (hn : n < 0x80) :
    (Text.hex 2 n).foldl Reader.read ⟨.hex long content none, leaves⟩
      = ⟨.inside long 0 (CodePoint.ofNat n :: content), leaves⟩ := by
  have values := hexValue?_hex n hn
  obtain ⟨d, ds, digits, hd, hds⟩ := List.map_eq_cons_iff.mp values
  obtain ⟨e, rfl, he⟩ := List.map_eq_singleton_iff.mp hds
  have whole : 16 * (n / 16) + n % 16 = n := Nat.div_add_mod n 16
  simp only [digits, List.foldl_cons, List.foldl_nil, Reader.read, Reader.readHex, hd, he,
    Reader.goto, whole]

/-- An escaped point is read as the point. -/
theorem foldl_read_escaped_point (c : CodePoint) :
    c.escaped.foldl Reader.read ⟨.inside long 0 content, leaves⟩
      = ⟨.inside long 0 (c :: content), leaves⟩ := by
  unfold CodePoint.escaped
  split
  · next h =>
    subst h
    rfl
  split
  · next h =>
    subst h
    rfl
  split
  · next h =>
    subst h
    rfl
  split
  · next h =>
    subst h
    rfl
  split
  · next h =>
    subst h
    rfl
  split
  · next h =>
    have hc : c.val < 0x80 := by
      simp only [Bool.or_eq_true, decide_eq_true_eq] at h
      omega
    have back : CodePoint.ofNat c.val = c := by
      simp only [CodePoint.ofNat, c.val_lt, dite_true]
    have opened : ("\\x" : Text).foldl Reader.read ⟨.inside long 0 content, leaves⟩
        = ⟨.hex long content none, leaves⟩ := rfl
    rw [List.foldl_append, opened, foldl_read_hex hc, back]
  · next hb hq _ _ _ hc =>
    simp only [Bool.or_eq_true, decide_eq_true_eq, not_or] at hc
    exact read_inner hq hb hc.1

/-- Escaped text is read as the text. -/
theorem foldl_read_escape_text (t : Text) :
    (escape t).foldl Reader.read ⟨.inside long 0 content, leaves⟩
      = ⟨.inside long 0 (t.reverse ++ content), leaves⟩ := by
  induction t generalizing content with
  | nil => rfl
  | cons c t ih =>
    rw [escape, List.flatMap_cons, List.foldl_append, foldl_read_escaped_point, List.reverse_cons,
      List.append_assoc]
    exact ih

/-- Where a literal has just been opened, the first point of an escaped text only tells that the
literal is not a long one. -/
theorem foldl_read_escape_first (c : CodePoint) (t : Text) :
    (escape (c :: t)).foldl Reader.read ⟨.opening 1, leaves⟩
      = ⟨.inside false 0 ((c :: t).reverse ++ []), leaves⟩ := by
  obtain ⟨d, rest, hd, hq⟩ := escaped_eq_cons c
  have first : Reader.read ⟨.opening 1, leaves⟩ d = Reader.read ⟨.inside false 0 [], leaves⟩ d := by
    simp only [Reader.read, if_neg hq]
    rfl
  have hcons : escape (c :: t) = d :: (rest ++ escape t) := by simp [escape, hd]
  rw [← foldl_read_escape_text (c :: t), hcons, List.foldl_cons, List.foldl_cons, first]

end Literal

/-- A literal is read as its text. -/
theorem awaits_literal (t : Text) : Awaits (literal t) [.text t] := by
  refine ⟨fun l hl => by rw [List.mem_singleton.mp hl]; rfl, ?_⟩
  rintro ⟨mode, leaves⟩ c rfl hc
  have split : literal t = ('"' : CodePoint) :: (escape t ++ [('"' : CodePoint)]) := rfl
  have opened : Reader.read ⟨.code, leaves⟩ '"' = ⟨.opening 1, leaves⟩ := rfl
  rw [split, List.foldl_cons, opened, List.foldl_append]
  cases t with
  | cons d t =>
    rw [foldl_read_escape_first, List.append_nil]
    simp only [List.foldl_cons, List.foldl_nil, Reader.read, Reader.readInside, Reader.keep,
      List.reverse_reverse]
    rfl
  | nil =>
    -- two quotes are behind the reader, so the next point decides between the two lengths
    simp only [escape, List.flatMap_nil, List.foldl_nil, List.foldl_cons, Reader.read, if_neg hc,
      if_true]
    rfl

/-! ## Docstrings -/

/-- `Holds t u`: inside a literal between triple quotes the text stands for `u`. -/
def Holds (t u : Text) : Prop :=
  ∀ (content : Text) (leaves : List Leaf),
    t.foldl Reader.read ⟨.inside true 0 content, leaves⟩
      = ⟨.inside true 0 (u.reverse ++ content), leaves⟩

theorem holds_nil : Holds [] [] := fun _ _ => rfl

theorem Holds.append {t u t' u' : Text} (h : Holds t u) (h' : Holds t' u') :
    Holds (t ++ t') (u ++ u') := by
  intro content leaves
  rw [List.foldl_append, h, h', List.reverse_append, List.append_assoc]

theorem holds_escape (t : Text) : Holds (escape t) t := fun _ _ => foldl_read_escape_text t

theorem holds_newline : Holds "\n" "\n" := fun _ _ => rfl

theorem holds_spaces (n : Nat) : Holds (spaces n) (spaces n) := by
  induction n with
  | zero => exact holds_nil
  | succ n ih =>
    have blank : Holds " " " " := fun _ _ => rfl
    exact blank.append ih

theorem reads_long {t u : Text} (h : Holds t u) :
    Reads ("\"\"\"" ++ t ++ "\"\"\"") [.text u] := by
  refine ⟨fun l hl => by rw [List.mem_singleton.mp hl]; rfl, ?_⟩
  rintro ⟨mode, leaves⟩ rfl
  have opened : ("\"\"\"" : Text).foldl Reader.read ⟨.code, leaves⟩
      = ⟨.inside true 0 [], leaves⟩ := rfl
  have closed : ("\"\"\"" : Text).foldl Reader.read ⟨.inside true 0 u.reverse, leaves⟩
      = ⟨.code, .text u.reverse.reverse :: leaves⟩ := rfl
  rw [List.foldl_append, List.foldl_append, opened, h, List.append_nil, closed,
    List.reverse_reverse]
  rfl

/-- The lines of a docstring behind the first one. -/
def docLines (level : Nat) (more : List Text) : Text :=
  Text.unlines (more.map fun l => if l.isEmpty then [] else indent level ++ l)

/-- What a docstring says: its lines as they stand in the program, and if there are several, the
indentation in front of the quotes at the end. -/
def docText (level : Nat) : List Text → Text
  | [] => []
  | [line] => line
  | line :: next :: more => line ++ "\n" ++ docLines level (next :: more) ++ indent level

/-- What the lines of a docstring say: the lines in the program, without the last line end. A margin
stands in front of all but the first one and the blank ones, and in front of the quotes that follow
if there are several. -/
def marginText (margin line : Text) (more : List Text) : Text :=
  Text.join "\n" (line :: more.map fun l => if l.isEmpty then [] else margin ++ l)
    ++ if more.isEmpty then [] else ("\n" : Text) ++ margin

theorem join_append_newline (line : Text) (more : List Text) :
    Text.join "\n" (line :: more) ++ "\n" = Text.unlines (line :: more) := by
  induction more generalizing line with
  | nil => simp [Text.join, Text.unlines]
  | cons next more ih =>
    rw [Text.unlines_cons, ← ih next]
    simp [Text.join]

theorem docText_cons (level : Nat) (line : Text) (more : List Text) :
    docText level (line :: more) = marginText (indent level) line more := by
  cases more with
  | nil => simp [docText, marginText, Text.join]
  | cons next more =>
    have lines := join_append_newline line
      ((next :: more).map fun l => if l.isEmpty then [] else indent level ++ l)
    rw [marginText, List.isEmpty_cons, if_neg Bool.false_ne_true, ← List.append_assoc, lines,
      Text.unlines_cons]
    rfl

section Margin

variable {margin : Text} {leaves : List Leaf}

/-- A margin in front of each line is part of the literal, and a reader keeps it. -/
theorem holds_marginLines (hm : Holds margin margin) (more : List Text) :
    Holds (Text.unlines (more.map fun l => if l.isEmpty then [] else margin ++ escape l))
      (Text.unlines (more.map fun l => if l.isEmpty then [] else margin ++ l)) := by
  induction more with
  | nil => exact holds_nil
  | cons l more ih =>
    have first : Holds (if l.isEmpty then [] else margin ++ escape l)
        (if l.isEmpty then [] else margin ++ l) := by
      split
      · exact holds_nil
      · exact hm.append (holds_escape l)
    exact (first.append holds_newline).append ih

/-- A docstring is its text behind its margin. -/
theorem reads_docstring_behind (hr : Reads margin leaves) (hm : Holds margin margin) (line : Text)
    (more : List Text) : Reads (Text.unlines (docstring margin (line :: more)))
      (leaves ++ [.text (marginText margin line more), .lineEnd]) := by
  have shape : ∀ {t u}, Holds t u → Reads (margin ++ (("\"\"\"" ++ t ++ "\"\"\"") ++ "\n"))
      (leaves ++ [.text u, .lineEnd]) := fun held =>
    hr.append ((reads_long held).append reads_newline)
  cases more with
  | nil => simpa [docstring, marginText, Text.unlines, Text.join] using shape (holds_escape line)
  | cons next more =>
    have body := (((holds_escape line).append holds_newline).append
      (holds_marginLines hm (next :: more))).append hm
    have said : marginText margin line (next :: more) = line ++ "\n" ++ Text.unlines
        ((next :: more).map fun l => if l.isEmpty then [] else margin ++ l) ++ margin := by
      rw [marginText, List.isEmpty_cons, if_neg Bool.false_ne_true, ← List.append_assoc,
        join_append_newline, Text.unlines_cons]
    rw [said]
    simpa [docstring, Text.unlines] using shape body

end Margin

theorem reads_docstring (level : Nat) {contents : List Text} (h : contents ≠ []) :
    Reads (Text.unlines (docstring (indent level) contents))
      (blankLeaves level ++ [.text (docText level contents), .lineEnd]) := by
  obtain ⟨line, more, rfl⟩ := List.exists_cons_of_ne_nil h
  rw [docText_cons]
  exact reads_docstring_behind (reads_indent level) (holds_spaces _) line more

/-! ## Brackets -/

theorem closeGroup_of_whole {closing : CodePoint} {inner ls rest : List Leaf}
    (h : ∀ l ∈ ls, l.isOpened = false) :
    closeGroup closing inner (ls ++ rest) = closeGroup closing (ls.reverse ++ inner) rest := by
  induction ls generalizing inner with
  | nil => rfl
  | cons l ls ih =>
    have step : closeGroup closing inner (l :: (ls ++ rest))
        = closeGroup closing (l :: inner) (ls ++ rest) := by
      cases l with
      | opened c => exact nomatch h _ List.mem_cons_self
      | _ => rfl
    rw [List.cons_append, step, ih fun k hk => h k (List.mem_cons_of_mem l hk)]
    simp

/-- Brackets around a text hold its leaves. -/
theorem reads_group {opening closing : CodePoint} (pair : closing? opening = some closing)
    {t : Text} {ls : List Leaf} (h : Awaits t ls) :
    Reads ([opening] ++ t ++ [closing]) [.group opening ls] := by
  refine ⟨fun l hl => by rw [List.mem_singleton.mp hl]; rfl, ?_⟩
  rintro ⟨mode, leaves⟩ rfl
  have opens : Reader.read ⟨.code, leaves⟩ opening = ⟨.code, .opened opening :: leaves⟩ := by
    unfold closing? at pair
    split_ifs at pair with h₁ h₂ h₃
    all_goals
      subst opening
      rfl
  have closes : Reader.read ⟨.code, ls.reverse ++ .opened opening :: leaves⟩ closing
      = ⟨.code, .group opening ls :: leaves⟩ := by
    have taken : closeGroup closing [] (ls.reverse ++ .opened opening :: leaves)
        = some (.group opening ls :: leaves) := by
      rw [closeGroup_of_whole fun l hl => h.whole l (List.mem_reverse.mp hl)]
      simp [closeGroup, pair]
    have sign : Reader.read ⟨.code, ls.reverse ++ .opened opening :: leaves⟩ closing
        = match closeGroup closing [] (ls.reverse ++ .opened opening :: leaves) with
          | some leaves => { mode := .code, leaves }
          | none => ⟨.broken, ls.reverse ++ .opened opening :: leaves⟩ := by
      unfold closing? at pair
      split_ifs at pair with h₁ h₂ h₃
      all_goals
        cases pair
        rfl
    rw [sign, taken]
  have apart : closing ≠ '"' := by
    unfold closing? at pair
    split_ifs at pair
    all_goals
      cases pair
      decide
  have inner := h.read ⟨.code, .opened opening :: leaves⟩ closing rfl apart
  simp only [List.foldl_append, List.foldl_cons, List.foldl_nil, opens, inner, closes]
  rfl

theorem reads_parentheses {t : Text} {ls : List Leaf} (h : Awaits t ls) :
    Reads ("(" ++ t ++ ")") [.group '(' ls] := reads_group rfl h

theorem reads_brackets {t : Text} {ls : List Leaf} (h : Awaits t ls) :
    Reads ("[" ++ t ++ "]") [.group '[' ls] := reads_group rfl h

theorem reads_braces {t : Text} {ls : List Leaf} (h : Awaits t ls) :
    Reads ("\x7b" ++ t ++ "\x7d") [.group '\x7b' ls] := reads_group rfl h

/-! ## Texts of several lines -/

/-- The leaves of a text in parentheses, one literal per line. -/
def literalLeaves (level : Nat) (cs : List Text) : List Leaf :=
  .lineEnd :: (cs.flatMap fun c => blankLeaves (level + 1) ++ [.text c, .lineEnd])
    ++ blankLeaves level

/-- The leaves of a text, in parentheses if it has several lines. -/
def promptLeaves (level : Nat) (t : Text) : List Leaf :=
  if t.contains ('\n' : CodePoint) then [.group '(' (literalLeaves level (chunks t))] else [.text t]

section Margin

variable {margin : Text} {leaves inner : List Leaf}

theorem reads_literalLines (hm : Reads margin leaves) (cs : List Text) :
    Reads (Text.unlines (cs.map fun c => margin ++ literal c))
      (cs.flatMap fun c => leaves ++ [.text c, .lineEnd]) := by
  induction cs with
  | nil => exact reads_nil
  | cons c cs ih =>
    have head := hm.append ((awaits_literal c).append reads_newline (by decide))
    simpa [Text.unlines] using head.append ih

/-- A text comes back from its rendering over several lines, whatever the margins are. -/
theorem awaits_multilineLiteral_behind (hm : Reads margin leaves)
    (hi : Reads (margin ++ "    ") inner) (t : Text) : Awaits (multilineLiteral margin t)
      (if t.contains ('\n' : CodePoint) then
        [.group '(' (.lineEnd :: ((chunks t).flatMap fun c => inner ++ [.text c, .lineEnd])
          ++ leaves)]
      else [.text t]) := by
  unfold multilineLiteral
  split
  · have lines := reads_newline.append ((reads_literalLines hi (chunks t)).append hm)
    have whole := (reads_parentheses lines.awaits).awaits
    have opened : ("(\n" : Text) = "(" ++ "\n" := rfl
    simpa [opened] using whole
  · exact awaits_literal t

end Margin

theorem awaits_multilineLiteral (level : Nat) (t : Text) :
    Awaits (multilineLiteral (indent level) t) (promptLeaves level t) := by
  have inner : Reads (indent level ++ "    ") (blankLeaves (level + 1)) := by
    rw [← indent_succ]
    exact reads_indent (level + 1)
  exact awaits_multilineLiteral_behind (reads_indent level) inner t

end Source

end AgentWorkflow
