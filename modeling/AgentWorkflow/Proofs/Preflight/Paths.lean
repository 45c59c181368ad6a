import AgentWorkflow.Proofs.Naming.Distinct
import AgentWorkflow.Proofs.Preflight.Findings
import AgentWorkflow.Proofs.Text.Points

/-!
# Where findings are

The path of a field is written with the names that lead to it behind dots, and the positions in
brackets. None of these names has a dot or a bracket in it, so a path can be read back, and what is
written at an issue tells which field is meant.

Results:
1. `Path.suffix_injective`: steps are told by what is written for them.
2. `Field.text_injective`: what is written for a field is written for no other.
-/

namespace AgentWorkflow

namespace Path

/-- True of a point that is not the beginning of a step. -/
def isInner (c : CodePoint) : Bool := c ≠ '.' && c ≠ '['

/-- True of a step that can be told from what follows it. -/
def isPlain : Step → Bool
  | .field name => name.all isInner
  | .item _ => true

variable {p q : Path}

theorem isInner_head_suffix : ∀ c ∈ (suffix p).head?, isInner c = false := by
  cases p with
  | nil => exact fun _ h => nomatch h
  | cons step p =>
    cases step with
    | field name | item index =>
      rintro c ⟨⟩
      decide

theorem ofNat_bracket_inj {m n : Nat} {rest rest' : Text}
    (h : Text.ofNat m ++ ("]" ++ rest) = Text.ofNat n ++ ("]" ++ rest')) :
    m = n ∧ rest = rest' := by
  have digits : ∀ k, ∀ c ∈ Text.ofNat k, c.isDigit := fun _ _ => Text.isDigit_of_mem_ofNat
  have bracket : ∀ t : Text, ∀ c ∈ (("]" : Text) ++ t).head?, c.isDigit = false := by
    rintro t c ⟨⟩
    decide
  obtain ⟨number, behind⟩ :=
    Text.append_inj_of_stop (digits m) (digits n) (bracket rest) (bracket rest') h
  exact ⟨Text.ofNat_injective number, List.append_cancel_left behind⟩

/-- A step that is plain can be told from what follows it, so a path in words leads to one
place only. -/
theorem suffix_injective (hp : ∀ step ∈ p, isPlain step) (hq : ∀ step ∈ q, isPlain step)
    (h : suffix p = suffix q) : p = q := by
  induction p generalizing q with
  | nil =>
    cases q with
    | nil => rfl
    | cons step q => cases step <;> exact absurd h.symm (List.cons_ne_nil _ _)
  | cons step p ih =>
    cases q with
    | nil => cases step <;> exact absurd h (List.cons_ne_nil _ _)
    | cons step' q =>
      obtain ⟨plain, deeper⟩ := List.forall_mem_cons.mp hp
      obtain ⟨plain', deeper'⟩ := List.forall_mem_cons.mp hq
      -- the first point tells a field from an item, and a name ends where the next step begins
      cases step with
      | field name =>
        cases step' with
        | field name' =>
          have behind : name ++ suffix p = name' ++ suffix q := (List.cons.inj h).2
          obtain ⟨rfl, rest⟩ := Text.append_inj_of_stop (List.all_eq_true.mp plain)
            (List.all_eq_true.mp plain') isInner_head_suffix isInner_head_suffix behind
          rw [ih deeper deeper' rest]
        | item index' => exact absurd (List.cons.inj h).1 (by decide)
      | item index =>
        cases step' with
        | field name' => exact absurd (List.cons.inj h).1 (by decide)
        | item index' =>
          simp only [suffix, List.append_assoc] at h
          obtain ⟨rfl, rest⟩ := ofNat_bracket_inj (List.append_cancel_left h)
          rw [ih deeper deeper' rest]

/-- A path from a field is told by what is written, which begins with the name of that field. -/
theorem text_injective {name name' : Text} (hp : ∀ step ∈ Step.field name :: p, isPlain step)
    (hq : ∀ step ∈ Step.field name' :: q, isPlain step)
    (h : text (.field name :: p) = text (.field name' :: q)) :
    (Step.field name :: p : Path) = .field name' :: q := by
  have behind : suffix (.field name :: p) = suffix (.field name' :: q) :=
    congrArg (CodePoint.ofChar '.' :: ·) h
  exact suffix_injective hp hq behind

end Path

namespace Preflight

namespace Field

/-- The field at a path; the names on the way to it are not looked at. -/
def ofPath : Path → Field
  | [.field _, .field label] =>
    if label = "projectId" then .setting .project
    else if label = "region" then .setting .region
    else .setting .service
  | [.field _, .item i, .field label] =>
    if label = "id" then .id i
    else if label = "temperature" then .temperature i
    else if label = "llmModel" then .model i
    else .name .agents i
  | [.field _, .item i, .field _, .item j, .field _] => .name (.tools i) j
  | [.field _, .item i, .field _, .item j, .field _, .item k, .field _] => .name (.parameters i j) k
  | _ => .agents

theorem ofPath_path (f : Field) : ofPath f.path = f := by
  cases f with
  | agents | id | temperature | model => rfl
  | name s => cases s <;> rfl
  | setting s => cases s <;> rfl

theorem path_injective : Function.Injective path :=
  Function.LeftInverse.injective ofPath_path

theorem isPlain_of_mem_path (f : Field) : ∀ step ∈ f.path, Path.isPlain step := by
  rw [← List.all_eq_true]
  cases f with
  | agents | id | temperature | model => rfl
  | name s => cases s <;> rfl
  | setting s => cases s <;> rfl

theorem exists_path (f : Field) : ∃ name p, f.path = .field name :: p := by
  cases f with
  | agents | id | temperature | model | setting => exact ⟨_, _, rfl⟩
  | name s => cases s <;> exact ⟨_, _, rfl⟩

theorem text_injective : Function.Injective fun f : Field => f.path.text := by
  intro f g h
  obtain ⟨name, p, hf⟩ := exists_path f
  obtain ⟨name', p', hg⟩ := exists_path g
  have plain := isPlain_of_mem_path f
  have plain' := isPlain_of_mem_path g
  refine path_injective ?_
  simp only [hf, hg] at h plain plain' ⊢
  exact Path.text_injective plain plain' h

end Field

end Preflight

end AgentWorkflow
