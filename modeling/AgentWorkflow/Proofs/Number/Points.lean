import AgentWorkflow.Number.Shortest
import AgentWorkflow.Proofs.Text.Points

/-!
# The points of a written number

A finite number is written with digits, a point, the letter of the exponent and signs, in either
layout (`isNumberPoint_of_mem_text`).
-/

namespace AgentWorkflow

/-- True of a point that a finite number may be written with. -/
def isNumberPoint (c : CodePoint) : Bool := c.isDigit || ("+-.e" : Text).contains c

namespace DecimalLayout

variable {c : CodePoint} {digits : Text}

theorem isNumberPoint_of_isDigit (h : c.isDigit) : isNumberPoint c := by simp [isNumberPoint, h]

theorem isNumberPoint_of_mem_zeros {n : Nat} (h : c ∈ List.replicate n ('0' : CodePoint)) :
    isNumberPoint c := by
  rw [List.eq_of_mem_replicate h]
  decide

theorem isNumberPoint_of_mem_positional {place : Int} (hd : ∀ c ∈ digits, isNumberPoint c)
    (h : c ∈ positional place digits) : isNumberPoint c := by
  simp only [positional] at h
  split at h
  · rcases List.mem_append.mp h with h | h
    · rcases List.mem_append.mp h with h | h
      · exact (by decide : ∀ c ∈ ("0." : Text), isNumberPoint c) c h
      · exact isNumberPoint_of_mem_zeros h
    · exact hd c h
  · split at h
    · rcases List.mem_append.mp h with h | h
      · rcases List.mem_append.mp h with h | h
        · exact hd c h
        · exact isNumberPoint_of_mem_zeros h
      · exact (by decide : ∀ c ∈ (".0" : Text), isNumberPoint c) c h
    · rcases List.mem_append.mp h with h | h
      · rcases List.mem_append.mp h with h | h
        · exact hd c (List.mem_of_mem_take h)
        · exact (by decide : ∀ c ∈ ("." : Text), isNumberPoint c) c h
      · exact hd c (List.mem_of_mem_drop h)

theorem isNumberPoint_of_mem_exponential {layout : DecimalLayout} {place : Int}
    (hd : ∀ c ∈ digits, isNumberPoint c) (h : c ∈ layout.exponential place digits) :
    isNumberPoint c := by
  have point : ∀ c ∈ ("." : Text), isNumberPoint c := by decide
  have sign : ∀ c ∈ (if place - 1 < 0 then ("-" : Text) else "+"), isNumberPoint c := by
    split <;> decide
  have letter : ∀ c ∈ ("e" : Text), isNumberPoint c := by decide
  simp only [exponential, pad, List.mem_append] at h
  rcases h with (((h | h) | h) | h) | h | h
  · exact hd c (List.mem_of_mem_take h)
  · split at h
    · simp at h
    · exact (List.mem_append.mp h).elim (point c) fun h => hd c (List.mem_of_mem_drop h)
  · exact letter c h
  · exact sign c h
  · exact isNumberPoint_of_mem_zeros h
  · exact isNumberPoint_of_isDigit (Text.isDigit_of_mem_ofNat h)

theorem isNumberPoint_of_mem_write {layout : DecimalLayout} {d : Decimal}
    (h : c ∈ layout.write d) : isNumberPoint c := by
  have hd : ∀ c ∈ ((Text.ofNat d.digits).reverse.dropWhile (· = ('0' : CodePoint))).reverse,
      isNumberPoint c := by
    intro c hc
    have hr := (List.dropWhile_sublist _).subset (List.mem_reverse.mp hc)
    exact isNumberPoint_of_isDigit (Text.isDigit_of_mem_ofNat (List.mem_reverse.mp hr))
  simp only [write] at h
  split at h
  · exact (by decide : ∀ c ∈ ("0.0" : Text), isNumberPoint c) c h
  · split at h
    · exact isNumberPoint_of_mem_positional hd h
    · exact isNumberPoint_of_mem_exponential hd h

end DecimalLayout

namespace DecimalLayout

theorem write_ne_nil (layout : DecimalLayout) (d : Decimal) : layout.write d ≠ [] := by
  have zero : ("0.0" : Text) ≠ [] := by decide
  have front : ("0." : Text) ≠ [] := by decide
  have back : (".0" : Text) ≠ [] := by decide
  have point : ("." : Text) ≠ [] := by decide
  have letter : ("e" : Text) ≠ [] := by decide
  simp only [write]
  split
  · exact zero
  · split
    · simp only [positional]
      split
      · simp [front]
      · split <;> simp [back, point]
    · simp [exponential, letter]

end DecimalLayout

theorem Binary64.text_ne_nil {x : Binary64} (hx : x.isFinite) : x.text ≠ [] := by
  cases x with
  | nan | infinite => simp [isFinite] at hx
  | finite negative m =>
    have zero : ("0.0" : Text) ≠ [] := by decide
    refine List.append_ne_nil_of_right_ne_nil _ ?_
    split
    · exact zero
    · exact DecimalLayout.write_ne_nil _ _

/-- A finite number is written with digits, signs, a point and an exponent, and nothing else. -/
theorem Binary64.isNumberPoint_of_mem_text {x : Binary64} (hx : x.isFinite) {c : CodePoint}
    (h : c ∈ x.text) : isNumberPoint c := by
  cases x with
  | nan | infinite => simp [isFinite] at hx
  | finite negative m =>
    rcases List.mem_append.mp h with h | h
    · revert h
      cases negative
      · simp [Text.ofString]
      · exact (by decide : ∀ c ∈ ("-" : Text), isNumberPoint c) c
    · split at h
      · exact (by decide : ∀ c ∈ ("0.0" : Text), isNumberPoint c) c h
      · exact DecimalLayout.isNumberPoint_of_mem_write h

end AgentWorkflow
