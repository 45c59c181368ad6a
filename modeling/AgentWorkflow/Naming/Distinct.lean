import AgentWorkflow.Text.Basic

/-!
# Distinct names

Repeated names are told apart by numbers: the first keeps its name and each later one takes the
smallest number from two on that makes a name neither given nor handed out.
-/

namespace AgentWorkflow

namespace Naming

def numbered (name : Text) (n : Nat) : Text := name ++ "_" ++ Text.ofNat n

/-- The first number from `n` on that makes a name outside `taken`, looking at no more than
`fuel` taken ones. -/
def firstFree (taken : List Text) (name : Text) : Nat → Nat → Nat
  | 0, n => n
  | fuel + 1, n =>
    if taken.contains (numbered name n) then firstFree taken name fuel (n + 1) else n

/-- Tells names apart, given the names that are `taken` and those `seen` so far. A name outside
`taken` is found among as many candidates as there are names taken, and one more. -/
def distinctFrom (taken seen : List Text) : List Text → List Text
  | [] => []
  | name :: rest =>
    if seen.contains name then
      let fresh := numbered name (firstFree taken name taken.length 2)
      fresh :: distinctFrom (fresh :: taken) (fresh :: seen) rest
    else name :: distinctFrom taken (name :: seen) rest

/-- The names in order, each repetition numbered. -/
def distinct (names : List Text) : List Text := distinctFrom names [] names

theorem length_distinctFrom (taken seen names : List Text) :
    (distinctFrom taken seen names).length = names.length := by
  induction names generalizing taken seen with
  | nil => rfl
  | cons name rest ih => simp only [distinctFrom]; split <;> simp [ih]

example : distinct ["a", "a", "a_2", "a_2"] = (["a", "a_3", "a_2", "a_2_2"] : List Text) := by
  decide

end Naming

end AgentWorkflow
