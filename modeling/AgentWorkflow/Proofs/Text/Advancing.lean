import AgentWorkflow.Text.Basic

/-!
# Reading point by point

A reader goes over a text point by point. At every point it goes on to a state and gives what it has
read, or it gives up. So it reads parts that stand one after another from the state in which the
part before has left it (`Goes.append`), and a text needs to be followed only once, from the states
in which it is met.
-/

namespace AgentWorkflow

namespace Text

variable {σ α : Type}

/-- The state of a reader behind a text, and what it has read of the text. -/
def advance (step : σ → CodePoint → Option (σ × List α)) (s : σ) : Text → Option (σ × List α)
  | [] => some (s, [])
  | c :: t => do
    let (next, read) ← step s c
    let (last, more) ← advance step next t
    return (last, read ++ more)

/-- `Goes step s t last read`: a reader in the state `s` reads `t` as `read`, and its state is
`last` then. -/
def Goes (step : σ → CodePoint → Option (σ × List α)) (s : σ) (t : Text) (last : σ)
    (read : List α) : Prop :=
  advance step s t = some (last, read)

instance [DecidableEq σ] [DecidableEq α] (step : σ → CodePoint → Option (σ × List α)) (s : σ)
    (t : Text) (last : σ) (read : List α) : Decidable (Goes step s t last read) :=
  inferInstanceAs (Decidable (_ = _))

variable {step : σ → CodePoint → Option (σ × List α)} {s next last : σ} {t u : Text}
variable {read more : List α}

theorem goes_nil : Goes step s [] s [] := rfl

theorem Goes.cons {c : CodePoint} (h : step s c = some (next, read))
    (ht : Goes step next t last more) : Goes step s (c :: t) last (read ++ more) := by
  rw [Goes, advance, h]
  exact congrArg (·.bind fun r => some (r.1, read ++ r.2)) ht

theorem goes_point {c : CodePoint} (h : step s c = some (next, read)) :
    Goes step s [c] next read := by
  simpa using Goes.cons h goes_nil

/-- A run over an append is one run behind the other. -/
theorem Goes.append (ht : Goes step s t next read) (hu : Goes step next u last more) :
    Goes step s (t ++ u) last (read ++ more) := by
  induction t generalizing s read with
  | nil =>
    obtain ⟨rfl, rfl⟩ := Prod.mk.inj (Option.some.inj ht)
    exact hu
  | cons c t ih =>
    obtain ⟨⟨between, first⟩, stepped, ht⟩ := Option.bind_eq_some_iff.mp ht
    obtain ⟨⟨_, rest⟩, gone, same⟩ := Option.bind_eq_some_iff.mp ht
    obtain ⟨rfl, rfl⟩ := Prod.mk.inj (Option.some.inj same)
    rw [List.append_assoc]
    exact .cons stepped (ih gone)

/-- A reader that comes back to a state behind every part reads the parts one by one. -/
theorem Goes.flatMap {ι : Type} {parts : List ι} {f : ι → Text} {g : ι → List α}
    (h : ∀ i ∈ parts, Goes step s (f i) s (g i)) :
    Goes step s (parts.flatMap f) s (parts.flatMap g) := by
  induction parts with
  | nil => exact goes_nil
  | cons i parts ih =>
    obtain ⟨first, rest⟩ := List.forall_mem_cons.mp h
    exact first.append (ih rest)

end Text

end AgentWorkflow
