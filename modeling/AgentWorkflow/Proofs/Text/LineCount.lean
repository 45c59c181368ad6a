import AgentWorkflow.Proofs.Text.Points

/-!
# Counting lines

Readers do not agree on what ends a line: a line feed does for all of them, a carriage return or a
separator of lines for some, and no printable point of ASCII for any. What is counted here holds for
all of them. A text that is joined by line feeds has the lines of its parts, so it has one line for
each part and one more for every line end that a part brings along.

Results:
1. `linesBy_join`: the lines of joined parts are those of the parts.
2. `length_linesBy`: a text has one line more than line ends.
3. `linesBy_join_eq_iff`: the lines are the parts just if no part has a line end in it.
-/

namespace AgentWorkflow

/-- What ends a line for some reader. -/
structure EndsLines (ends : CodePoint → Bool) : Prop where
  feed : ends '\n'
  printable : ∀ c : CodePoint, 0x20 ≤ c.val → c.val < 0x7F → ends c = false

namespace Text

variable (ends : CodePoint → Bool)

/-- The lines of a text. What stands behind the last line end counts as a line. -/
def linesBy (t : Text) : List Text := t.splitOnP ends

def lineEnds (t : Text) : Nat := t.countP ends

def isPrintableAscii (t : Text) : Bool := t.all fun c => 0x20 ≤ c.val && c.val < 0x7F

variable {ends} {t u : Text} {parts : List Text}

theorem length_linesBy (t : Text) : (linesBy ends t).length = lineEnds ends t + 1 := by
  induction t with
  | nil => rfl
  | cons c t ih =>
    simp only [linesBy, lineEnds] at ih ⊢
    rw [List.splitOnP_cons_eq_if_modifyHead, List.countP_cons]
    split
    next => rw [List.length_cons, ih]
    next => rw [List.length_modifyHead, ih, Nat.add_zero]

@[simp] theorem lineEnds_append (t u : Text) :
    lineEnds ends (t ++ u) = lineEnds ends t + lineEnds ends u := List.countP_append

theorem lineEnds_flatMap_eq_zero_iff {α : Type} {xs : List α} {f : α → Text} :
    lineEnds ends (xs.flatMap f) = 0 ↔ ∀ x ∈ xs, lineEnds ends (f x) = 0 := by
  simp only [lineEnds, List.countP_eq_zero, List.mem_flatMap]
  grind

/-- How many line ends a text has that is made of parts is a matter of how many its parts have. -/
theorem lineEnds_flatMap_congr {α : Type} {xs : List α} {f g : α → Text}
    (h : ∀ x ∈ xs, lineEnds ends (f x) = lineEnds ends (g x)) :
    lineEnds ends (xs.flatMap f) = lineEnds ends (xs.flatMap g) := by
  induction xs with
  | nil => rfl
  | cons x xs ih =>
    obtain ⟨first, rest⟩ := List.forall_mem_cons.mp h
    rw [List.flatMap_cons, List.flatMap_cons, lineEnds_append, lineEnds_append, first, ih rest]

theorem linesBy_of_lineEnds (h : lineEnds ends t = 0) : linesBy ends t = [t] :=
  List.splitOnP_eq_singleton fun c hc => by simpa using List.countP_eq_zero.mp h c hc

theorem isPrintableAscii_replicate (n : Nat) :
    isPrintableAscii (List.replicate n (' ' : CodePoint)) :=
  List.all_eq_true.mpr fun c hc => by
    rw [List.eq_of_mem_replicate hc]
    decide

theorem isPrintableAscii_ofNat (n : Nat) : (ofNat n).isPrintableAscii := by
  refine List.all_eq_true.mpr fun c hc => ?_
  have digit := isDigit_of_mem_ofNat hc
  simp only [CodePoint.isDigit, Bool.and_eq_true, decide_eq_true_eq] at digit ⊢
  omega

section Ends

variable (h : EndsLines ends)

include h

theorem lineEnds_of_isPrintableAscii (ht : t.isPrintableAscii) : lineEnds ends t = 0 := by
  refine List.countP_eq_zero.mpr fun c hc => ?_
  have printable := List.all_eq_true.mp ht c hc
  simp only [Bool.and_eq_true, decide_eq_true_eq] at printable
  simp [h.printable c printable.1 printable.2]

theorem lineEnds_join (hs : u.isPrintableAscii) (parts : List Text) :
    lineEnds ends (join u parts) = lineEnds ends parts.flatten := by
  induction parts with
  | nil => rfl
  | cons part parts ih =>
    cases parts with
    | nil => simp [join]
    | cons next more =>
      rw [join_cons_cons, lineEnds_append, lineEnds_append, lineEnds_of_isPrintableAscii h hs, ih,
        Nat.add_zero, ← lineEnds_append]
      rfl

theorem linesBy_join (hne : parts ≠ []) :
    linesBy ends (join "\n" parts) = parts.flatMap (linesBy ends) := by
  induction parts with
  | nil => contradiction
  | cons part parts ih =>
    cases parts with
    | nil => simp [join]
    | cons next more =>
      rw [join_feed_cons_cons, linesBy, List.splitOnP_append_cons _ _ h.feed, List.flatMap_cons]
      exact congrArg _ (ih (List.cons_ne_nil next more))

/-- Joined parts have as many lines as there are parts, and one more for every line end in them. -/
theorem length_linesBy_join (hne : parts ≠ []) :
    (linesBy ends (join "\n" parts)).length = parts.length + lineEnds ends parts.flatten := by
  have counted (parts : List Text) : (parts.flatMap (linesBy ends)).length
      = parts.length + lineEnds ends parts.flatten := by
    induction parts with
    | nil => rfl
    | cons part parts ih =>
      rw [List.flatMap_cons, List.length_append, length_linesBy, ih, List.length_cons,
        List.flatten_cons, lineEnds_append]
      omega
  rw [linesBy_join h hne, counted]

/-- The parts are the lines exactly when no part has a line end in it. -/
theorem linesBy_join_eq_iff (hne : parts ≠ []) :
    linesBy ends (join "\n" parts) = parts ↔ lineEnds ends parts.flatten = 0 := by
  constructor
  · intro same
    have counted := length_linesBy_join h hne
    rw [same] at counted
    omega
  · intro none
    have flat : ∀ part ∈ parts, linesBy ends part = [part] := by
      rw [← List.flatMap_id, lineEnds_flatMap_eq_zero_iff] at none
      exact fun part hp => linesBy_of_lineEnds (none part hp)
    rw [linesBy_join h hne, List.flatMap_congr flat, List.flatMap_singleton']

end Ends

end Text

end AgentWorkflow
