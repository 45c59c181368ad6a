import AgentWorkflow.Json.Value
import AgentWorkflow.Proofs.Text.Encodable

/-!
# What is shown can be written

A text between quotes is shown with everything unprintable escaped, and no surrogate is printable,
so what is shown of any text or value can be written in UTF-8 even where the text itself cannot.

Results:
1. `Text.isEncodable_quoted`: texts between quotes.
2. `Json.isEncodable_shown`: values.
-/

namespace AgentWorkflow

theorem exists_range_of_inRanges {n : Nat} {ranges : List (Nat × Nat)} (h : inRanges n ranges) :
    ∃ range ∈ ranges, range.1 ≤ n ∧ n ≤ range.2 := by
  induction ranges with
  | nil => cases h
  | cons range ranges ih =>
    rw [inRanges] at h
    split at h
    · cases h
    · next low =>
      split at h
      · next high => exact ⟨range, List.mem_cons_self, by omega, high⟩
      · obtain ⟨range', found, within⟩ := ih h
        exact ⟨range', List.mem_cons_of_mem range found, within⟩

/-- The ranges of printable points leave the surrogates out. -/
theorem CodePoint.not_isPrintable_of_isSurrogate {c : CodePoint} (h : c.isSurrogate) :
    ¬c.isPrintable := by
  have apart : ∀ range ∈ printableRanges, range.2 < 0xD800 ∨ 0xDFFF < range.1 := by decide +kernel
  simp only [isSurrogate, Bool.and_eq_true, decide_eq_true_eq] at h
  have beyond : ¬c.val < 0x7F := by omega
  rw [isPrintable, if_neg beyond]
  intro printable
  obtain ⟨range, found, low, high⟩ := exists_range_of_inRanges printable
  have := apart range found
  omega

namespace Text

theorem isEncodable_quotedPoint {quote : CodePoint} (h : quote.isSurrogate = false)
    (c : CodePoint) : (CodePoint.quoted quote c).isEncodable := by
  have backslash : CodePoint.isSurrogate '\\' = false := CodePoint.not_isSurrogate_ofChar _
  unfold CodePoint.quoted
  split_ifs with special feed back tab printable
  · have plain : c.isSurrogate = false := by
      simp only [Bool.or_eq_true, decide_eq_true_eq] at special
      rcases special with rfl | rfl
      · exact h
      · exact backslash
    simp [isEncodable, plain, backslash]
  · simp
  · simp
  · simp
  · have plain : c.isSurrogate = false := by
      by_contra surrogate
      exact CodePoint.not_isPrintable_of_isSurrogate (Bool.not_eq_false _ ▸ surrogate) printable
    simp [isEncodable, plain]
  all_goals simp

@[simp] theorem isEncodable_quoted (t : Text) : t.quoted.isEncodable = true := by
  have mark : t.quoteMark.isSurrogate = false := by
    unfold quoteMark
    split <;> exact CodePoint.not_isSurrogate_ofChar _
  have points : t.all fun c => (CodePoint.quoted t.quoteMark c).isEncodable :=
    List.all_eq_true.mpr fun c _ => isEncodable_quotedPoint mark c
  have one : isEncodable [t.quoteMark] = true := by simp [isEncodable, mark]
  change isEncodable ([t.quoteMark] ++ t.flatMap (CodePoint.quoted t.quoteMark) ++ [t.quoteMark]) = _
  simp only [isEncodable_append, isEncodable_flatMap, one, points, Bool.and_self]

@[simp] theorem isEncodable_quotedList (ts : List Text) : (quotedList ts).isEncodable = true := by
  have joined := isEncodable_join (isEncodable_ofString ", ")
    (show ∀ part ∈ ts.map quoted, part.isEncodable by simp)
  simp [quotedList, joined]

end Text

namespace Json

@[simp] theorem isEncodable_typeName (v : Json) : v.typeName.isEncodable = true := by
  cases v <;> exact Text.isEncodable_ofString _

mutual

@[simp] theorem isEncodable_shown (v : Json) : v.shown.isEncodable = true := by
  cases v with
  | null => exact Text.isEncodable_ofString "None"
  | bool b => cases b <;> exact Text.isEncodable_ofString _
  | int n => exact Text.isEncodable_ofInt n
  | real x => exact Text.isEncodable_realText x
  | text t => exact Text.isEncodable_quoted t
  | array items =>
    have joined := Text.isEncodable_join (Text.isEncodable_ofString ", ")
      (isEncodable_shownItems items)
    simp [shown, joined]
  | object fields =>
    have joined := Text.isEncodable_join (Text.isEncodable_ofString ", ")
      (isEncodable_shownFields fields)
    simp [shown, joined]

theorem isEncodable_shownItems (items : List Json) : ∀ t ∈ shownItems items, t.isEncodable := by
  cases items with
  | nil => exact List.forall_mem_nil _
  | cons item items =>
    exact List.forall_mem_cons.mpr ⟨isEncodable_shown item, isEncodable_shownItems items⟩

theorem isEncodable_shownFields (fields : List (Text × Json)) :
    ∀ t ∈ shownFields fields, t.isEncodable := by
  match fields with
  | [] => exact List.forall_mem_nil _
  | (name, value) :: fields =>
    refine List.forall_mem_cons.mpr ⟨?_, isEncodable_shownFields fields⟩
    simp [isEncodable_shown value]

end

end Json

end AgentWorkflow
