import AgentWorkflow.Proofs.Text.Points

/-!
# Cutting a text

`splitOn` cuts a text where the library's `List.splitOn` does, so the library's laws of cutting and
joining are laws of texts. A text whose parts are each closed by the separator is cut into what the
parts are cut into (`splitOn_closed`), whether or not the separator occurs inside the parts. So what
is found on the lines of a text is found on those of its parts (`onLines_unlines`, `onLines_join`).
-/

namespace AgentWorkflow

namespace Text

variable {separator : CodePoint} {t u : Text}

theorem splitOn_eq (separator : CodePoint) (t : Text) :
    splitOn separator t = List.splitOn separator t := by
  induction t with
  | nil => rfl
  | cons c t ih =>
    rw [splitOn, List.splitOn_cons_eq_if_modifyHead, ih]
    by_cases same : c = separator
    · simp [same]
    · cases pieces : List.splitOn separator t with
      | nil => exact absurd pieces (List.splitOn_ne_nil separator t)
      | cons piece rest => simp [same]

theorem splitOn_append_cons (separator : CodePoint) (t u : Text) :
    splitOn separator (t ++ separator :: u) = splitOn separator t ++ splitOn separator u := by
  rw [splitOn_eq, splitOn_eq, splitOn_eq, List.splitOn_append_cons_self]

theorem splitOn_eq_singleton (absent : separator ∉ t) : splitOn separator t = [t] := by
  rw [splitOn_eq, List.splitOn_eq_singleton absent]

/-- What is free of the separator stays with the first piece. -/
theorem splitOn_append (absent : separator ∉ t) (u : Text) :
    splitOn separator (t ++ u) = (splitOn separator u).modifyHead (t ++ ·) := by
  induction t with
  | nil => exact (congrFun List.modifyHead_id _).symm
  | cons c t ih =>
    obtain ⟨other, absent⟩ := not_or.mp (mt List.mem_cons.mpr absent)
    rw [List.cons_append, splitOn_eq, List.splitOn_cons_eq_if_modifyHead, ← splitOn_eq, ih absent]
    simp [Ne.symm other]
    rfl

/-- Joining the pieces with what they were cut at gives the text back. -/
theorem join_splitOn (separator : CodePoint) (t : Text) :
    join [separator] (splitOn separator t) = t := by
  rw [splitOn_eq, join, List.intercalate_splitOn]

theorem length_splitOn_pos (separator : CodePoint) (t : Text) :
    0 < (splitOn separator t).length :=
  List.length_pos_of_ne_nil (splitOn_ne_nil separator t)

/-- A text is one piece only if there is nothing to cut it at. -/
theorem length_splitOn_eq_one_iff : (splitOn separator t).length = 1 ↔ separator ∉ t := by
  constructor
  · intro one held
    obtain ⟨front, back, rfl⟩ := List.append_of_mem held
    rw [splitOn_append_cons, List.length_append] at one
    have before := length_splitOn_pos separator front
    have behind := length_splitOn_pos separator back
    omega
  · intro absent
    rw [splitOn_eq_singleton absent, List.length_singleton]

theorem splitOn_closed (separator : CodePoint) (parts : List Text) :
    splitOn separator (parts.flatMap (· ++ [separator]))
      = parts.flatMap (splitOn separator) ++ [[]] := by
  induction parts with
  | nil => rfl
  | cons part parts ih =>
    rw [List.flatMap_cons, List.append_assoc, List.singleton_append, splitOn_append_cons, ih,
      List.flatMap_cons, List.append_assoc]

/-! ## Lines -/

section Lines

variable {α : Type} {f : Text → Option α}

/-- What is found on the lines of a text. -/
def onLines (f : Text → Option α) (t : Text) : List α := (splitOn '\n' t).filterMap f

theorem onLines_append_cons (f : Text → Option α) (t u : Text) :
    onLines f (t ++ ('\n' : CodePoint) :: u) = onLines f t ++ onLines f u := by
  rw [onLines, splitOn_append_cons, List.filterMap_append]
  rfl

theorem onLines_line (h : ('\n' : CodePoint) ∉ t) : onLines f t = (f t).toList := by
  rw [onLines, splitOn_eq_singleton h]
  cases hf : f t <;> simp [hf]

theorem onLines_unlines (h : f [] = none) (lines : List Text) :
    onLines f (unlines lines) = lines.flatMap (onLines f) := by
  have last : onLines f [] = [] := by
    rw [onLines_line List.not_mem_nil, h]
    rfl
  induction lines with
  | nil => exact last
  | cons line lines ih =>
    rw [unlines_feed_cons, onLines_append_cons, ih, List.flatMap_cons]

theorem onLines_join (h : f [] = none) (parts : List Text) :
    onLines f (join "\n" parts) = parts.flatMap (onLines f) := by
  induction parts with
  | nil => exact onLines_unlines h []
  | cons part parts ih =>
    cases parts with
    | nil => simp [join]
    | cons next parts =>
      rw [join_feed_cons_cons, onLines_append_cons, ih]
      rfl

end Lines

end Text

end AgentWorkflow
