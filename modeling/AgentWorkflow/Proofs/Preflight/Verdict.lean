import AgentWorkflow.Proofs.Preflight.Paths
import Mathlib.Data.List.Nodup

/-!
# What preflight demands of a workflow

A workflow is sound when each of its fields is. Preflight has no error to report exactly for sound
workflows, and otherwise reports the errors at the fields that are not sound: of names that are
alike, at all but the first. Names that will be changed are reported as warnings.

Results:
1. `offends_iff`: there is an error to find on a field exactly when it is not sound.
2. `sound_iff`: a workflow is sound when each of its fields is.
3. `preflight_reports`: the report of preflight is the one told here.
-/

namespace AgentWorkflow

namespace Preflight

/-! ## Demands -/

/-- What a deployment setting has to be. -/
def Setting.IsSound (d : Deployment) : Setting → Prop
  | .project => ¬d.projectId.isBlank → HasProjectForm d.projectId.trim
  | .region => ¬d.region.isBlank → HasRegionForm d.region.trim
  | .service => ¬d.serviceName.isBlank → Naming.kebabCase d.serviceName ≠ []

/-- What a field has to be. Ids and names are compared with those before them, names that are blank
with no others. -/
def Field.IsSound (w : Workflow) : Field → Prop
  | .agents => w.agents ≠ []
  | .id i => ∀ a, w.agents[i]? = some a → ∀ b ∈ w.agents.take i, b.id ≠ a.id
  | .name s k => ∀ name, (s.names w)[k]? = some name → ¬name.isBlank ∧ ¬IsReserved name ∧
      ∀ other ∈ (s.names w).take k, ¬other.isBlank → key s.kind other ≠ key s.kind name
  | .temperature i => ∀ a, w.agents[i]? = some a →
      ∃ q, a.temperature.value? = some q ∧ 0 ≤ q ∧ q ≤ 2
  | .model i => ∀ a, w.agents[i]? = some a → a.model ∈ supportedModels
  | .setting s => s.IsSound w.deployment

/-- Names that can stand together in a program, told apart by their keys. -/
structure WellNamed (key : Text → Text) (names : List Text) : Prop where
  filled : ∀ name ∈ names, ¬name.isBlank
  free : ∀ name ∈ names, ¬IsReserved name
  apart : (names.map key).Nodup

end Preflight

open Preflight

/-- A workflow that can be generated as it is, up to the spelling of names. -/
structure Workflow.Sound (w : Workflow) : Prop where
  agents : w.agents ≠ []
  ids : (w.agents.map (·.id)).Nodup
  agentNames : WellNamed Naming.snakeCase (w.agents.map (·.name))
  toolNames : ∀ a ∈ w.agents, WellNamed Naming.toolFunction (a.tools.map (·.name))
  parameterNames : ∀ a ∈ w.agents, ∀ t ∈ a.tools,
    WellNamed Naming.snakeCase (t.parameters.map (·.name))
  temperatures : ∀ a ∈ w.agents, ∃ q, a.temperature.value? = some q ∧ 0 ≤ q ∧ q ≤ 2
  models : ∀ a ∈ w.agents, a.model ∈ supportedModels
  deployment : ∀ s : Setting, s.IsSound w.deployment

/-- A report on a workflow that is right about each of its fields. -/
structure Report.IsAbout (r : Report) (w : Workflow) : Prop where
  silent : r.errors = [] ↔ w.Sound
  located : ∀ e ∈ r.errors, ∃ f : Field, e.path = some f.path
  charged : ∀ f : Field, (∃ e ∈ r.errors, e.path.map Path.text = some f.path.text) ↔ ¬f.IsSound w
  repeatedId : ∀ i a, w.agents[i]? = some a →
    (Issue.on (Field.id i).path (.repeatedId a.id) ∈ r.errors ↔
      ∃ b ∈ w.agents.take i, b.id = a.id)
  repeatedName : ∀ (s : Scope) (k : Nat) name, (s.names w)[k]? = some name →
    (Issue.on (Field.name s k).path (.repeatedName s.kind name) ∈ r.errors ↔
      ¬name.isBlank ∧ ∃ other ∈ (s.names w).take k,
        ¬other.isBlank ∧ key s.kind other = key s.kind name)
  changedName : ∀ (s : Scope) (k : Nat) name, (s.names w)[k]? = some name → ¬name.isBlank →
    Issue.on (Field.name s k).path (.invalidName s.kind name) ∉ r.errors →
    ((∃ i ∈ r.warnings, i.path.map Path.text = some (Field.name s k).path.text) ↔
      name ≠ Naming.snakeCase name)

namespace Preflight

variable {w : Workflow} {f : Field} {finding : Finding} {issue : Issue}

/-! ## One field -/

/-- There is an error to find on a field. -/
def Field.Offends (w : Workflow) (f : Field) : Prop :=
  ∃ finding, Finds w f finding ∧ finding.severity = .error

theorem offends_setting {s : Setting} :
    (Field.setting s).Offends w ↔ ¬s.IsSound w.deployment := by
  constructor
  · rintro ⟨finding, rule, grave⟩
    cases rule with
    | setting rule =>
      cases rule with
      | memoryWithoutProject | settingsWithoutProject | changedService => cases grave
      | invalidProject filled invalid | invalidRegion filled invalid =>
        exact fun sound => invalid (sound filled)
      | unusableService filled unusable => exact fun sound => sound filled unusable
  · intro h
    cases s with
    | project =>
      obtain ⟨filled, invalid⟩ := Classical.not_imp.mp h
      exact ⟨_, .setting (.invalidProject filled invalid), rfl⟩
    | region =>
      obtain ⟨filled, invalid⟩ := Classical.not_imp.mp h
      exact ⟨_, .setting (.invalidRegion filled invalid), rfl⟩
    | service =>
      obtain ⟨filled, unusable⟩ := Classical.not_imp.mp h
      exact ⟨_, .setting (.unusableService filled (not_not.mp unusable)), rfl⟩

theorem offends_name {s : Scope} {k : Nat} :
    (Field.name s k).Offends w ↔ ¬(Field.name s k).IsSound w := by
  constructor
  · rintro ⟨finding, rule, grave⟩ sound
    cases rule with
    | name here rule =>
      obtain ⟨filled, free, apart⟩ := sound _ here
      cases rule with
      | missing blank => exact filled blank
      | invalid _ reserved => exact free reserved
      | changed => cases grave
      | repeated _ found =>
        obtain ⟨other, earlier, named, same⟩ := found
        exact apart other earlier named same
  · intro h
    simp only [Field.IsSound, not_forall] at h
    obtain ⟨name, here, h⟩ := h
    by_cases blank : name.isBlank
    · exact ⟨_, .name here (.missing blank), rfl⟩
    · by_cases reserved : IsReserved name
      · exact ⟨_, .name here (.invalid blank reserved), rfl⟩
      · have found : ∃ other ∈ (s.names w).take k,
            ¬other.isBlank ∧ key s.kind other = key s.kind name := by
          simpa [blank, reserved] using h
        exact ⟨_, .name here (.repeated blank found), rfl⟩

/-- There is an error on a field exactly when the field is not sound. -/
theorem offends_iff : f.Offends w ↔ ¬f.IsSound w := by
  cases f with
  | setting s => exact offends_setting
  | name s k => exact offends_name
  | agents =>
    constructor
    · rintro ⟨_, ⟨none⟩, -⟩
      exact not_not_intro none
    · intro h
      exact ⟨_, .noAgents (not_not.mp h), rfl⟩
  | id i =>
    constructor
    · rintro ⟨_, rule, -⟩ sound
      cases rule with
      | repeatedId here earlier =>
        obtain ⟨b, hb, same⟩ := earlier
        exact sound _ here b hb same
    · intro h
      simp only [Field.IsSound, not_forall, not_not] at h
      obtain ⟨a, here, b, hb, same⟩ := h
      exact ⟨_, .repeatedId here ⟨b, hb, same⟩, rfl⟩
  | temperature i =>
    constructor
    · rintro ⟨_, rule, -⟩ sound
      cases rule with
      | temperature here outside => exact outside (sound _ here)
    · intro h
      simp only [Field.IsSound, not_forall] at h
      obtain ⟨a, here, outside⟩ := h
      exact ⟨_, .temperature here outside, rfl⟩
  | model i =>
    constructor
    · rintro ⟨_, rule, -⟩ sound
      cases rule with
      | model here other => exact other (sound _ here)
    · intro h
      simp only [Field.IsSound, not_forall] at h
      obtain ⟨a, here, other⟩ := h
      exact ⟨_, .model here other, rfl⟩

/-! ## All fields -/

theorem nodup_iff_not_mem_take {α : Type} {xs : List α} :
    xs.Nodup ↔ ∀ k x, xs[k]? = some x → x ∉ xs.take k := by
  rw [List.nodup_iff_getElem?_ne_getElem?]
  constructor
  · intro apart k x hx earlier
    obtain ⟨j, hj, same⟩ := List.mem_take_iff_getElem.mp earlier
    have before : j < k := by omega
    have inside := (List.getElem?_eq_some_iff.mp hx).1
    exact apart j k before inside (by rw [hx, List.getElem?_eq_getElem (by omega), same])
  · intro apart j k before inside same
    rw [List.getElem?_eq_getElem inside, List.getElem?_eq_getElem (before.trans inside)] at same
    refine apart k xs[k] (List.getElem?_eq_getElem inside) ?_
    exact List.mem_take_iff_getElem.mpr ⟨j, by omega, Option.some.inj same⟩

/-- That names are pairwise apart can be charged to the later of two names. -/
theorem wellNamed_iff {kind : NameKind} {names : List Text} : WellNamed (key kind) names ↔
    ∀ k name, names[k]? = some name → ¬name.isBlank ∧ ¬IsReserved name ∧
      ∀ other ∈ names.take k, ¬other.isBlank → key kind other ≠ key kind name := by
  constructor
  · rintro ⟨filled, free, apart⟩ k name here
    have inside := List.mem_of_getElem? here
    refine ⟨filled name inside, free name inside, fun other earlier _ same => ?_⟩
    refine nodup_iff_not_mem_take.mp apart k (key kind name) (by simp [here]) ?_
    rw [← List.map_take, ← same]
    exact List.mem_map_of_mem earlier
  · intro sound
    have filled : ∀ name ∈ names, ¬name.isBlank := by
      intro name h
      obtain ⟨k, here⟩ := List.mem_iff_getElem?.mp h
      exact (sound k name here).1
    refine ⟨filled, fun name h => ?_, nodup_iff_not_mem_take.mpr fun k x hx earlier => ?_⟩
    · obtain ⟨k, here⟩ := List.mem_iff_getElem?.mp h
      exact (sound k name here).2.1
    · rw [List.getElem?_map, Option.map_eq_some_iff] at hx
      obtain ⟨name, here, rfl⟩ := hx
      rw [← List.map_take] at earlier
      obtain ⟨other, before, same⟩ := List.mem_map.mp earlier
      exact (sound k name here).2.2 other before (filled other (List.mem_of_mem_take before)) same

/-- The names of all scopes, said without the places of the scopes. -/
theorem wellNamed_scopes : (∀ s : Scope, WellNamed (key s.kind) (s.names w)) ↔
    WellNamed Naming.snakeCase (w.agents.map (·.name)) ∧
    (∀ a ∈ w.agents, WellNamed Naming.toolFunction (a.tools.map (·.name))) ∧
    ∀ a ∈ w.agents, ∀ t ∈ a.tools, WellNamed Naming.snakeCase (t.parameters.map (·.name)) := by
  have none : ∀ key, WellNamed key [] := fun _ =>
    ⟨List.forall_mem_nil _, List.forall_mem_nil _, List.nodup_nil⟩
  constructor
  · intro sound
    refine ⟨sound .agents, fun a ha => ?_, fun a ha t ht => ?_⟩
    · obtain ⟨i, hi⟩ := List.mem_iff_getElem?.mp ha
      exact names_tools hi ▸ sound (.tools i)
    · obtain ⟨i, hi⟩ := List.mem_iff_getElem?.mp ha
      obtain ⟨j, hj⟩ := List.mem_iff_getElem?.mp ht
      exact names_parameters hi hj ▸ sound (.parameters i j)
  · rintro ⟨agents, tools, parameters⟩ s
    cases s with
    | agents => exact agents
    | tools i =>
      rw [Scope.names, Scope.toolsOf]
      split
      · next a hi => exact tools a (List.mem_of_getElem? hi)
      · exact none _
    | parameters i j =>
      simp only [Scope.names, Scope.toolsOf]
      split
      · next t ht =>
        split at ht
        · next a hi => exact parameters a (List.mem_of_getElem? hi) t (List.mem_of_getElem? ht)
        · cases ht
      · exact none _

/-- Soundness of the workflow as a whole, field by field. -/
theorem sound_iff : w.Sound ↔ ∀ f : Field, f.IsSound w := by
  constructor
  · intro sound f
    cases f with
    | agents => exact sound.agents
    | id i =>
      intro a ha b earlier same
      refine nodup_iff_not_mem_take.mp sound.ids i a.id (by simp [ha]) ?_
      rw [← List.map_take, ← same]
      exact List.mem_map_of_mem earlier
    | name s k =>
      have named := wellNamed_scopes.mpr ⟨sound.agentNames, sound.toolNames, sound.parameterNames⟩
      exact wellNamed_iff.mp (named s) k
    | temperature i => exact fun a ha => sound.temperatures a (List.mem_of_getElem? ha)
    | model i => exact fun a ha => sound.models a (List.mem_of_getElem? ha)
    | setting s => exact sound.deployment s
  · intro sound
    obtain ⟨agentNames, toolNames, parameterNames⟩ :=
      wellNamed_scopes.mp fun s => wellNamed_iff.mpr fun k => sound (.name s k)
    refine ⟨sound .agents, ?_, agentNames, toolNames, parameterNames, ?_, ?_,
      fun s => sound (.setting s)⟩
    -- a field tells each id from those before it, which is to tell all of them apart
    · refine nodup_iff_not_mem_take.mpr fun i x hx earlier => ?_
      rw [List.getElem?_map, Option.map_eq_some_iff] at hx
      obtain ⟨a, ha, rfl⟩ := hx
      rw [← List.map_take] at earlier
      obtain ⟨b, before, same⟩ := List.mem_map.mp earlier
      exact sound (.id i) a ha b before same
    · intro a ha
      obtain ⟨i, hi⟩ := List.mem_iff_getElem?.mp ha
      exact sound (.temperature i) a hi
    · intro a ha
      obtain ⟨i, hi⟩ := List.mem_iff_getElem?.mp ha
      exact sound (.model i) a hi

/-! ## The report -/

theorem mem_errors_on (grave : finding.severity = .error) :
    Issue.on f.path finding ∈ w.preflight.errors ↔ Finds w f finding := by
  rw [mem_errors]
  constructor
  · rintro ⟨⟨g, _, rule, same⟩, -⟩
    obtain ⟨rfl, path⟩ := Issue.mk.inj same
    rwa [Field.path_injective (Option.some.inj path)]
  · intro rule
    exact ⟨⟨f, finding, rule, rfl⟩, grave⟩

theorem exists_errors_iff :
    (∃ e ∈ w.preflight.errors, e.path.map Path.text = some f.path.text) ↔ f.Offends w := by
  constructor
  · rintro ⟨e, he, there⟩
    obtain ⟨⟨g, finding, rule, rfl⟩, grave⟩ := mem_errors.mp he
    rw [Field.text_injective (Option.some.inj there)] at rule
    exact ⟨finding, rule, grave⟩
  · rintro ⟨finding, rule, grave⟩
    exact ⟨_, (mem_errors_on grave).mpr rule, rfl⟩

theorem exists_warnings_iff :
    (∃ i ∈ w.preflight.warnings, i.path.map Path.text = some f.path.text) ↔
      ∃ finding, Finds w f finding ∧ finding.severity = .warning := by
  constructor
  · rintro ⟨i, hi, there⟩
    obtain ⟨⟨g, finding, rule, rfl⟩, light⟩ := mem_warnings.mp hi
    rw [Field.text_injective (Option.some.inj there)] at rule
    exact ⟨finding, rule, light⟩
  · rintro ⟨finding, rule, light⟩
    exact ⟨_, mem_warnings.mpr ⟨⟨f, finding, rule, rfl⟩, light⟩, rfl⟩

/-- Preflight finds no error exactly in a sound workflow. -/
theorem errors_eq_nil_iff : w.preflight.errors = [] ↔ w.Sound := by
  have offence : w.preflight.errors = [] ↔ ∀ f : Field, ¬f.Offends w := by
    simp only [← exists_errors_iff]
    constructor
    · rintro none f ⟨e, he, -⟩
      rw [none] at he
      exact List.not_mem_nil he
    · intro none
      refine List.eq_nil_iff_forall_not_mem.mpr fun e he => ?_
      obtain ⟨⟨f, _, -, rfl⟩, -⟩ := mem_errors.mp he
      exact none f ⟨_, he, rfl⟩
  rw [offence, sound_iff]
  exact forall_congr' fun f => by rw [offends_iff, not_not]

section Names

variable {s : Scope} {k : Nat} {name : Text} (here : (s.names w)[k]? = some name)

include here

/-- Of the names that are fit to use those are warned about that snake case changes. -/
theorem warned_iff (filled : ¬name.isBlank) (free : ¬IsReserved name) :
    (∃ finding, Finds w (.name s k) finding ∧ finding.severity = .warning) ↔
      name ≠ Naming.snakeCase name := by
  simp only [finds_name_iff here]
  constructor
  · rintro ⟨_, rule, light⟩
    cases rule with
    | missing | invalid | repeated => cases light
    | changed _ _ changed => exact changed
  · intro changed
    exact ⟨_, .changed filled free changed, rfl⟩

end Names

/-- Preflight reports what is wrong with a workflow, and where. -/
theorem preflight_reports (w : Workflow) : w.preflight.IsAbout w where
  silent := errors_eq_nil_iff
  located e he := by
    obtain ⟨⟨f, _, -, rfl⟩, -⟩ := mem_errors.mp he
    exact ⟨f, rfl⟩
  charged f := by rw [exists_errors_iff, offends_iff]
  repeatedId i a ha := by
    rw [mem_errors_on rfl, finds_id_iff ha, and_iff_left rfl]
  repeatedName s k name here := by
    rw [mem_errors_on rfl, finds_name_iff here]
    constructor
    · intro rule
      cases rule with
      | repeated filled found => exact ⟨filled, found⟩
    · rintro ⟨filled, found⟩
      exact .repeated filled found
  changedName s k name here filled valid := by
    have free : ¬IsReserved name := by
      intro reserved
      exact valid ((mem_errors_on rfl).mpr (.name here (.invalid filled reserved)))
    rw [exists_warnings_iff, warned_iff here filled free]

end Preflight

end AgentWorkflow
