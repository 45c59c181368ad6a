import AgentWorkflow.Proofs.Naming.Distinct
import AgentWorkflow.Proofs.Number.Points
import AgentWorkflow.Proofs.Text.Points
import AgentWorkflow.Json.Value
import Mathlib.Tactic.SplitIfs

/-!
# Texts without a character

What texts are put together from, they lack a character if their parts do. Texts that are shown in
messages lack the line feed, whatever is shown: it is escaped in quoted texts, and nothing else has
one.

Results:
1. `lacks_append`, `lacks_ofString`, `lacks_flatMap`, `lacks_join`: texts made of others.
2. `lacks_quoted`, `Json.lacks_shown`: texts and values as they are shown.
-/

namespace AgentWorkflow

namespace Text

variable {ch : Char} {t : Text}

theorem lacks_iff : t.lacks ch ↔ ∀ c ∈ t, c ≠ ch := by simp [lacks]

/-! ## Texts made of others -/

@[simp] theorem lacks_nil (ch : Char) : lacks [] ch = true := rfl

@[simp] theorem lacks_append (t u : Text) (ch : Char) :
    (t ++ u).lacks ch = (t.lacks ch && u.lacks ch) := List.all_append

@[simp] theorem lacks_cons (c : CodePoint) (t : Text) (ch : Char) :
    lacks (c :: t) ch = (decide (c ≠ ch) && t.lacks ch) := List.all_cons

-- stated for the characters of a literal, since the kernel is slow to decode the literal itself
@[simp] theorem lacks_ofString (cs : List Char) (ch : Char) :
    (ofString (no_index (String.ofList cs))).lacks ch = cs.all (· ≠ ch) := by
  rw [lacks, ofString_ofList, List.all_map]
  exact List.all_congr rfl fun c => by simp [CodePoint.ofChar_injective.eq_iff (b := ch)]

@[simp] theorem lacks_flatMap {α : Type} (xs : List α) (f : α → Text) (ch : Char) :
    lacks (xs.flatMap f) ch = xs.all fun x => (f x).lacks ch := List.all_flatMap

theorem lacks_join {separator : Text} {parts : List Text} (hs : separator.lacks ch)
    (hp : ∀ part ∈ parts, part.lacks ch) : (join separator parts).lacks ch := by
  refine lacks_iff.mpr fun c hc => ?_
  rcases mem_join hc with hc | ⟨part, hpart, hc⟩
  · exact lacks_iff.mp hs c hc
  · exact lacks_iff.mp (hp part hpart) c hc

/-! ## Numbers -/

@[simp] theorem lacks_ofNat (n : Nat) : (ofNat n).lacks '\n' = true := by
  refine lacks_iff.mpr fun c hc => ?_
  rintro rfl
  exact absurd (isDigit_of_mem_ofNat hc) (by decide)

@[simp] theorem lacks_ofInt (n : Int) : (ofInt n).lacks '\n' = true := by
  cases n <;> simp [ofInt]

@[simp] theorem lacks_realText (x : Binary64) : x.text.lacks '\n' = true := by
  cases hx : x.isFinite with
  | true =>
    refine lacks_iff.mpr fun c hc => ?_
    rintro rfl
    exact absurd (Binary64.isNumberPoint_of_mem_text hx hc) (by decide)
  | false =>
    cases x with
    | nan => decide
    | infinite negative => cases negative <;> decide
    | finite negative x => cases hx

theorem mem_toDigitsCore {base fuel n : Nat} {cs : List Char} {c : Char} (hb : 0 < base)
    (h : c ∈ Nat.toDigitsCore base fuel n cs) :
    c ∈ cs ∨ ∃ digit < base, c = Nat.digitChar digit := by
  have first : ∀ (m : Nat) (ds : List Char), c ∈ Nat.digitChar (m % base) :: ds →
      c ∈ ds ∨ ∃ digit < base, c = Nat.digitChar digit := by
    intro m ds h
    exact (List.mem_cons.mp h).symm.imp_right fun same => ⟨_, Nat.mod_lt m hb, same⟩
  induction fuel generalizing n cs with
  | zero => exact .inl h
  | succ fuel ih =>
    rw [Nat.toDigitsCore] at h
    split at h
    · exact first n cs h
    · rcases ih h with h | digit
      · exact first n cs h
      · exact .inr digit

@[simp] theorem lacks_hex (width n : Nat) : (hex width n).lacks '\n' = true := by
  have digits : ∀ digit < 16, CodePoint.ofChar (Nat.digitChar digit) ≠ '\n' := by decide
  refine lacks_iff.mpr fun c hc => ?_
  rcases List.mem_append.mp hc with hc | hc
  · rw [List.eq_of_mem_replicate hc]
    decide
  · obtain ⟨ch, hch, rfl⟩ := List.mem_map.mp hc
    obtain ⟨digit, hd, rfl⟩ :=
      (mem_toDigitsCore (by decide) hch).resolve_left List.not_mem_nil
    exact digits digit hd

/-! ## Texts and values as they are shown -/

theorem lacks_quotedPoint {quote : CodePoint} (h : quote ≠ '\n') (c : CodePoint) :
    (CodePoint.quoted quote c).lacks '\n' := by
  have backslash : CodePoint.ofChar '\\' ≠ CodePoint.ofChar '\n' := by decide
  unfold CodePoint.quoted
  split_ifs with special feed
  · have other : c ≠ '\n' := by
      simp only [Bool.or_eq_true, decide_eq_true_eq] at special
      rcases special with rfl | rfl
      · exact h
      · exact backslash
    simp [other, backslash]
  all_goals simp [feed]

@[simp] theorem lacks_quoted (t : Text) : t.quoted.lacks '\n' = true := by
  have mark : t.quoteMark ≠ '\n' := by
    unfold quoteMark
    split <;> decide
  have points : ∀ c ∈ t, (CodePoint.quoted t.quoteMark c).lacks '\n' :=
    fun c _ => lacks_quotedPoint mark c
  simpa [quoted, mark] using points

@[simp] theorem lacks_quotedList (ts : List Text) : (quotedList ts).lacks '\n' = true := by
  have parts : ∀ part ∈ ts.map quoted, part.lacks '\n' := by simp
  have joined := lacks_join (show Text.lacks ", " '\n' by decide) parts
  simp [quotedList, joined]

end Text

namespace Json

@[simp] theorem lacks_typeName (v : Json) : v.typeName.lacks '\n' = true := by
  cases v <;> simp [typeName]

mutual

@[simp] theorem lacks_shown (v : Json) : v.shown.lacks '\n' = true := by
  cases v with
  | null => decide
  | bool b => cases b <;> decide
  | int n => exact Text.lacks_ofInt n
  | real x => exact Text.lacks_realText x
  | text t => exact Text.lacks_quoted t
  | array items =>
    have joined := Text.lacks_join (show Text.lacks ", " '\n' by decide) (lacks_shownItems items)
    simp [shown, joined]
  | object fields =>
    have joined := Text.lacks_join (show Text.lacks ", " '\n' by decide) (lacks_shownFields fields)
    simp [shown, joined]

theorem lacks_shownItems (items : List Json) : ∀ t ∈ shownItems items, t.lacks '\n' := by
  cases items with
  | nil => exact List.forall_mem_nil _
  | cons item items =>
    exact List.forall_mem_cons.mpr ⟨lacks_shown item, lacks_shownItems items⟩

theorem lacks_shownFields (fields : List (Text × Json)) :
    ∀ t ∈ shownFields fields, t.lacks '\n' := by
  match fields with
  | [] => exact List.forall_mem_nil _
  | (name, value) :: fields =>
    refine List.forall_mem_cons.mpr ⟨?_, lacks_shownFields fields⟩
    simp [lacks_shown value]

end

end Json

end AgentWorkflow
