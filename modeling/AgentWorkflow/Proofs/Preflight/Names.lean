import AgentWorkflow.Proofs.Naming.Distinct
import AgentWorkflow.Proofs.Preflight.Verdict

/-!
# Names that preflight lets pass

Preflight compares the names of agents in snake case, without the blanks around them. The program
is written with names that are made otherwise: a keyword takes an underscore, a repeated name a
number. Where preflight has no error to report, neither happens, so an agent goes by the name that
its warning told, or by its own where there was no warning.

Results:
1. `announces_iff`: preflight tells the snake case of every name, be it of an agent, of a tool or of
   a parameter.
2. `agentIdentifiers_of_sound`: no name of an agent takes an underscore or a number.
3. `keepsNames_of_preflight`: the identifiers of agents are the names that preflight told.
-/

namespace AgentWorkflow

open Preflight

/-- The identifiers of the agents are the names that preflight tells. -/
structure Workflow.KeepsNames (w : Workflow) : Prop where
  defined : ∀ a ∈ w.agents,
    Table.get? (agentIdentifiers w.agents) a.id = some (Naming.snakeCase a.name)
  injective : ∀ a ∈ w.agents, ∀ b ∈ w.agents,
    Table.get? (agentIdentifiers w.agents) a.id = Table.get? (agentIdentifiers w.agents) b.id →
      a.id = b.id
  warned : ∀ i a identifier, w.agents[i]? = some a →
    Table.get? (agentIdentifiers w.agents) a.id = some identifier →
      ∀ issue ∈ w.preflight.warnings, issue.path = some (Field.name .agents i).path →
        issue.finding = .changedName .agent a.name identifier
  unwarned : ∀ i a identifier, w.agents[i]? = some a →
    Table.get? (agentIdentifiers w.agents) a.id = some identifier →
      (∀ issue ∈ w.preflight.warnings, issue.path ≠ some (Field.name .agents i).path) →
        identifier = a.name
  table : agentIdentifiers w.agents = w.agents.map fun a => (a.id, Naming.snakeCase a.name)

namespace Preflight

variable {w : Workflow}

theorem sound_of_hasErrors (h : w.preflight.hasErrors = false) : w.Sound := by
  refine errors_eq_nil_iff.mp ?_
  simpa [Report.hasErrors] using h

/-- A name that passes becomes no keyword, so its identifier is its snake case. -/
theorem identifier_of_not_isReserved {name : Text} (free : ¬IsReserved name) :
    Naming.identifier name = Naming.snakeCase name := by
  refine Naming.identifier_eq_snakeCase ?_
  have other : ¬Naming.isKeyword (Naming.snakeCase name) := fun keyword => free (.inr keyword)
  simpa using other

/-! ## What preflight tells -/

section Told

variable {s : Scope} {k : Nat} {name told : Text}

/-- Preflight tells a name for the item at `k` of a scope: in the warning about its name, or by
giving no warning about a name that will be used as it is. -/
def Announces (w : Workflow) (s : Scope) (k : Nat) (told : Text) : Prop :=
  ∃ name, (s.names w)[k]? = some name ∧
    ((∃ issue ∈ w.preflight.warnings, issue.path = some (Field.name s k).path ∧
        issue.finding = .changedName s.kind name told) ∨
      told = name ∧ ∀ issue ∈ w.preflight.warnings, issue.path ≠ some (Field.name s k).path)

variable (here : (s.names w)[k]? = some name) (filled : ¬name.isBlank) (free : ¬IsReserved name)

include here

theorem finding_of_warning {issue : Issue} (warned : issue ∈ w.preflight.warnings)
    (there : issue.path = some (Field.name s k).path) :
    issue.finding = .changedName s.kind name (Naming.snakeCase name) ∧
      name ≠ Naming.snakeCase name := by
  obtain ⟨⟨f, finding, rule, rfl⟩, light⟩ := mem_warnings.mp warned
  obtain rfl := Field.path_injective (Option.some.inj there)
  rw [finds_name_iff here] at rule
  cases rule with
  | missing | invalid | repeated => cases light
  | changed _ _ changed => exact ⟨rfl, changed⟩

include filled free

/-- A name without a warning is in snake case already. -/
theorem snakeCase_of_not_warned
    (unwarned : ∀ issue ∈ w.preflight.warnings, issue.path ≠ some (Field.name s k).path) :
    Naming.snakeCase name = name := by
  by_contra changed
  obtain ⟨finding, rule, light⟩ := (warned_iff here filled free).mpr (Ne.symm changed)
  exact unwarned _ (mem_warnings.mpr ⟨⟨_, finding, rule, rfl⟩, light⟩) rfl

/-- What preflight tells of a name is its snake case. -/
theorem announces_iff : Announces w s k told ↔ told = Naming.snakeCase name := by
  constructor
  · rintro ⟨name', there, ⟨issue, warned, place, finding⟩ | ⟨rfl, unwarned⟩⟩
    · rw [(finding_of_warning here warned place).1] at finding
      exact (Finding.changedName.inj finding).2.2.symm
    · obtain rfl := Option.some.inj (here.symm.trans there)
      exact (snakeCase_of_not_warned here filled free unwarned).symm
  · rintro rfl
    refine ⟨name, here, ?_⟩
    by_cases changed : name = Naming.snakeCase name
    · refine .inr ⟨changed.symm, fun issue warned there => ?_⟩
      exact (finding_of_warning here warned there).2 changed
    · obtain ⟨finding, rule, light⟩ := (warned_iff here filled free).mpr changed
      have warned := mem_warnings.mpr ⟨⟨Field.name s k, finding, rule, rfl⟩, light⟩
      exact .inl ⟨_, warned, rfl, (finding_of_warning here warned rfl).1⟩

end Told

/-! ## The identifiers of agents -/

section Sound

variable (sound : w.Sound)

include sound

theorem nodup_snakeCase_of_sound : (w.agents.map fun a => Naming.snakeCase a.name).Nodup := by
  have apart := sound.agentNames.apart
  rwa [List.map_map] at apart

/-- In a sound workflow names are distinct in snake case and not reserved, so they need no number
and no guard. -/
theorem agentIdentifiers_of_sound :
    agentIdentifiers w.agents = w.agents.map fun a => (a.id, Naming.snakeCase a.name) := by
  have identifiers : (w.agents.map fun a => Naming.identifier a.name)
      = w.agents.map fun a => Naming.snakeCase a.name := by
    refine List.map_congr_left fun a ha => ?_
    exact identifier_of_not_isReserved (sound.agentNames.free a.name (List.mem_map_of_mem ha))
  -- names get no number when they are distinct, and no entry is overwritten when ids are
  have ids : ((w.agents.map fun a => (a.id, Naming.snakeCase a.name)).map (·.1)).Nodup := by
    rw [List.map_map]
    exact sound.ids
  rw [agentIdentifiers, identifiers, Naming.distinct_of_nodup (nodup_snakeCase_of_sound sound),
    List.zip_map', Table.ofList_of_nodup ids]

theorem get?_agentIdentifiers_of_sound {a : Agent} (ha : a ∈ w.agents) :
    Table.get? (agentIdentifiers w.agents) a.id = some (Naming.snakeCase a.name) := by
  rw [agentIdentifiers_of_sound sound]
  refine Table.get?_of_mem ?_ (List.mem_map_of_mem ha)
  rw [List.map_map]
  exact sound.ids

theorem warning_of_sound {i : Nat} {a : Agent} (ha : w.agents[i]? = some a) :
    (∀ issue ∈ w.preflight.warnings, issue.path = some (Field.name .agents i).path →
      issue.finding = .changedName .agent a.name (Naming.snakeCase a.name)) ∧
    ((∀ issue ∈ w.preflight.warnings, issue.path ≠ some (Field.name .agents i).path) →
      Naming.snakeCase a.name = a.name) := by
  have here : (Scope.agents.names w)[i]? = some a.name := by simp [Scope.names, ha]
  have inside := List.mem_of_getElem? here
  have filled := sound.agentNames.filled _ inside
  exact ⟨fun _ warned there => (finding_of_warning here warned there).1,
    snakeCase_of_not_warned here filled (sound.agentNames.free _ inside)⟩

end Sound

/-- Without errors, the identifiers of the agents are the names that preflight told. -/
theorem keepsNames_of_preflight (w : Workflow) (h : w.preflight.hasErrors = false) :
    w.KeepsNames := by
  have sound := sound_of_hasErrors h
  have defined : ∀ a ∈ w.agents,
      Table.get? (agentIdentifiers w.agents) a.id = some (Naming.snakeCase a.name) :=
    fun _ ha => get?_agentIdentifiers_of_sound sound ha
  have identified : ∀ (i : Nat) (a : Agent) identifier, w.agents[i]? = some a →
      Table.get? (agentIdentifiers w.agents) a.id = some identifier →
        Naming.snakeCase a.name = identifier := by
    intro i a identifier ha found
    rw [defined a (List.mem_of_getElem? ha)] at found
    exact Option.some.inj found
  refine ⟨defined, ?_, ?_, ?_, ?_⟩
  · intro a ha b hb same
    rw [defined a ha, defined b hb] at same
    rw [List.inj_on_of_nodup_map (nodup_snakeCase_of_sound sound) ha hb (Option.some.inj same)]
  · intro i a identifier ha found
    rw [← identified i a identifier ha found]
    exact (warning_of_sound sound ha).1
  · intro i a identifier ha found
    rw [← identified i a identifier ha found]
    exact (warning_of_sound sound ha).2
  · exact agentIdentifiers_of_sound sound

def greeters : Workflow where
  agents := [{ id := "1", name := "Greeter Bot" }, { id := "2", name := "greeter" }]

/-- The hypothesis holds of a workflow with a name that is changed. -/
theorem greeters_keepNames : greeters.preflight.hasErrors = false ∧ greeters.KeepsNames ∧
    agentIdentifiers greeters.agents = ([("1", "greeter_bot"), ("2", "greeter")] : Table Text) := by
  have passed : greeters.preflight.hasErrors = false := by decide +kernel
  have kept := keepsNames_of_preflight greeters passed
  refine ⟨passed, kept, kept.table.trans ?_⟩
  decide +kernel

end Preflight

end AgentWorkflow
