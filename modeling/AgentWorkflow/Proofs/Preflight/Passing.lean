import AgentWorkflow.Proofs.Preflight.Names
import AgentWorkflow.Proofs.Tools.Fields

/-!
# Under which names parameters are passed

A field that cannot go by its parameter's name keeps that name as an alias, so the value is passed
under the name that preflight told. Preflight compares names before fields are made of them, though.
The name that an earlier field has taken on may be that of a later parameter, which then goes by a
name with a number: after `_x`, whose field is `param_x`, a parameter `param_x` is passed as
`param_x_2`. Nothing else comes between a parameter and its name.

Results:
1. `wellNamed_of_toolPasses`: what it means that preflight has nothing against a tool.
2. `wireName_eq_iff`: which parameters are passed under their names.
3. `nodup_wireNames`: no two parameters are passed under one name.
4. `parameters_passed`: how the parameters of a tool are passed that preflight has nothing against.
-/

namespace AgentWorkflow

namespace Preflight

open Naming (snakeCase)
open Tools (schemaFields isReserved fieldName wantedName wireName)

/-- Preflight has no error to report on a tool, be it on its name or on one of its parameters. -/
def ToolPasses (w : Workflow) (i j : Nat) : Prop :=
  ∀ e ∈ w.preflight.errors, ∀ path ∈ e.path, ¬(Path.agent i).tool j <+: path

/-- The field of a parameter before the one at `k` has taken on a name. -/
def NameTaken (t : Tool) (k : Nat) (name : Text) : Prop :=
  ∃ q ∈ t.parameters.take k, isReserved (snakeCase q.name) ∧ fieldName (snakeCase q.name) = name

/-- How the parameters of a tool are passed, compared with what preflight told of their names. -/
structure PassedAsTold (w : Workflow) (i j : Nat) (t : Tool) : Prop where
  /-- There is one field per parameter, in order. -/
  parameters : (schemaFields t).map (·.parameter) = t.parameters
  /-- Preflight tells the snake case of a parameter's name. -/
  told : ∀ k p, t.parameters[k]? = some p → ∀ name,
    Announces w (.parameters i j) k name ↔ name = snakeCase p.name
  /-- The parameter is passed under this name, unless the field of an earlier one has taken it
  on. -/
  passed : ∀ k f, (schemaFields t)[k]? = some f →
    (wireName f = snakeCase f.parameter.name ↔ ¬NameTaken t k (snakeCase f.parameter.name))
  /-- If it has, the parameter is passed under this name with a number. -/
  renamed : ∀ k f, (schemaFields t)[k]? = some f → NameTaken t k (snakeCase f.parameter.name) →
    ∃ n, 2 ≤ n ∧ wireName f = Naming.numbered (snakeCase f.parameter.name) n
  /-- No two parameters are passed under one name. -/
  distinct : ((schemaFields t).map wireName).Nodup

/-! ## Tools that pass -/

theorem wellNamed_of_toolPasses {w : Workflow} {i j : Nat} {a : Agent} {t : Tool}
    (ha : w.agents[i]? = some a) (ht : a.tools[j]? = some t) (h : ToolPasses w i j) :
    WellNamed snakeCase (t.parameters.map (·.name)) := by
  have sound : ∀ k, (Field.name (.parameters i j) k).IsSound w := by
    intro k
    by_contra unsound
    obtain ⟨finding, rule, grave⟩ := offends_iff.mpr unsound
    refine h _ ((mem_errors_on grave).mpr rule) _ rfl ?_
    exact ⟨[.field "parameters", .item k, .field "name"], rfl⟩
  rw [← names_parameters ha ht]
  exact wellNamed_iff.mpr sound

section WellNamed

variable {t : Tool} (named : WellNamed snakeCase (t.parameters.map (·.name)))

include named

theorem identifier_parameter {p : Parameter} (hp : p ∈ t.parameters) :
    Naming.identifier p.name = snakeCase p.name :=
  identifier_of_not_isReserved (named.free p.name (List.mem_map_of_mem hp))

theorem wantedName_parameter {p : Parameter} (hp : p ∈ t.parameters) :
    wantedName p = fieldName (snakeCase p.name) := by
  rw [wantedName, identifier_parameter named hp]

theorem snakeCase_not_mem_take {k : Nat} {p : Parameter} (hp : t.parameters[k]? = some p) :
    ∀ q ∈ t.parameters.take k, snakeCase q.name ≠ snakeCase p.name := by
  intro q earlier same
  refine nodup_iff_not_mem_take.mp named.apart k (snakeCase p.name) (by simp [hp]) ?_
  rw [← List.map_take, ← List.map_take, List.map_map, ← same]
  exact List.mem_map_of_mem earlier

section Place

variable {k : Nat} {f : SchemaField} (here : (schemaFields t)[k]? = some f)

include here

theorem identifier_field : Naming.identifier f.parameter.name = snakeCase f.parameter.name :=
  identifier_parameter named (List.mem_of_getElem? (Tools.getElem?_schemaFields here).1)

theorem wantedName_field : wantedName f.parameter = fieldName (snakeCase f.parameter.name) := by
  rw [wantedName, identifier_field named here]

/-- A name is taken by a field in front of it that asks for the same. -/
theorem nameTaken_iff (plain : isReserved (snakeCase f.parameter.name) = false) :
    NameTaken t k (snakeCase f.parameter.name) ↔
      wantedName f.parameter ∈ (t.parameters.take k).map wantedName := by
  have place := (Tools.getElem?_schemaFields here).1
  have inside : ∀ q ∈ t.parameters.take k, q ∈ t.parameters := fun q => List.mem_of_mem_take
  rw [wantedName_field named here, Tools.fieldName_of_not_isReserved plain, List.mem_map]
  constructor
  · rintro ⟨q, earlier, -, same⟩
    exact ⟨q, earlier, (wantedName_parameter named (inside q earlier)).trans same⟩
  · rintro ⟨q, earlier, same⟩
    rw [wantedName_parameter named (inside q earlier)] at same
    -- names are distinct in snake case, so the earlier parameter does not have this one
    by_cases reserved : isReserved (snakeCase q.name)
    · exact ⟨q, earlier, reserved, same⟩
    · rw [Tools.fieldName_of_not_isReserved (by simpa using reserved)] at same
      exact absurd same (snakeCase_not_mem_take named place q earlier)

/-- A parameter whose name cannot be that of a field is passed under its name all the same. -/
theorem wireName_of_reserved (reserved : isReserved (snakeCase f.parameter.name)) :
    wireName f = snakeCase f.parameter.name ∧ ¬NameTaken t k (snakeCase f.parameter.name) := by
  rw [← identifier_field named here] at reserved ⊢
  refine ⟨Tools.wireName_of_isReserved (List.mem_of_getElem? here) reserved, ?_⟩
  rintro ⟨q, -, -, taken⟩
  rw [← taken, Tools.isReserved_fieldName] at reserved
  cases reserved

theorem wireName_of_plain (plain : isReserved (snakeCase f.parameter.name) = false) :
    wireName f = f.name := by
  refine (Tools.wireName_of_not_isReserved (List.mem_of_getElem? here) ?_).2
  simp [identifier_field named here, plain]

/-- A parameter with any other name is passed under it where it is not taken, and otherwise under
this name with a number. -/
theorem name_of_plain (plain : isReserved (snakeCase f.parameter.name) = false) :
    (¬NameTaken t k (snakeCase f.parameter.name) → f.name = snakeCase f.parameter.name) ∧
    (NameTaken t k (snakeCase f.parameter.name) →
      ∃ n, 2 ≤ n ∧ f.name = Naming.numbered (snakeCase f.parameter.name) n) := by
  have wanted : wantedName f.parameter = snakeCase f.parameter.name := by
    rw [wantedName_field named here, Tools.fieldName_of_not_isReserved plain]
  rw [nameTaken_iff named here plain]
  constructor
  · exact fun free => (Tools.name_of_first here free).trans wanted
  · intro taken
    rw [← wanted]
    exact Tools.name_of_repeated here taken

theorem wireName_of_nameTaken (taken : NameTaken t k (snakeCase f.parameter.name)) :
    ∃ n, 2 ≤ n ∧ wireName f = Naming.numbered (snakeCase f.parameter.name) n := by
  cases plain : isReserved (snakeCase f.parameter.name) with
  | true => exact absurd taken (wireName_of_reserved named here plain).2
  | false =>
    rw [wireName_of_plain named here plain]
    exact (name_of_plain named here plain).2 taken

theorem wireName_eq_iff : wireName f = snakeCase f.parameter.name ↔
    ¬NameTaken t k (snakeCase f.parameter.name) := by
  constructor
  · intro kept taken
    obtain ⟨n, -, renamed⟩ := wireName_of_nameTaken named here taken
    exact Naming.numbered_ne_self _ n (renamed.symm.trans kept)
  · intro free
    cases plain : isReserved (snakeCase f.parameter.name) with
    | true => exact (wireName_of_reserved named here plain).1
    | false =>
      rw [wireName_of_plain named here plain]
      exact (name_of_plain named here plain).1 free

/-- As no two parameters are called `model`, no field begins as it may not. -/
theorem isReserved_name : isReserved f.name = false := by
  have place := (Tools.getElem?_schemaFields here).1
  rw [← Bool.not_eq_true, Tools.isReserved_name_iff here]
  rintro ⟨model, q, earlier, model'⟩
  refine snakeCase_not_mem_take named place q earlier ?_
  rw [← identifier_parameter named (List.mem_of_mem_take earlier),
    ← identifier_field named here, model, model']

end Place

/-- The name under which a field's value is passed tells whether it is an alias. -/
theorem isReserved_wireName {f : SchemaField} (hf : f ∈ schemaFields t) :
    isReserved (wireName f) = isReserved (snakeCase f.parameter.name) := by
  obtain ⟨k, here⟩ := List.mem_iff_getElem?.mp hf
  cases plain : isReserved (snakeCase f.parameter.name) with
  | true => rw [(wireName_of_reserved named here plain).1, plain]
  | false => rw [wireName_of_plain named here plain, isReserved_name named here]

/-- No two fields of a tool are passed under one name, so an input is passed on once. -/
theorem nodup_wireNames : ((schemaFields t).map wireName).Nodup := by
  have names : ((schemaFields t).map (·.name)).Nodup := by
    rw [Tools.names_schemaFields]
    exact Naming.nodup_distinct _
  have parameters : ((schemaFields t).map fun f => snakeCase f.parameter.name).Nodup := by
    have apart := named.apart
    rwa [← Tools.parameters_schemaFields t, List.map_map, List.map_map] at apart
  refine names.of_map.map_on fun f hf g hg same => ?_
  obtain ⟨k, hk⟩ := List.mem_iff_getElem?.mp hf
  obtain ⟨l, hl⟩ := List.mem_iff_getElem?.mp hg
  have alike := congrArg isReserved same
  rw [isReserved_wireName named hf, isReserved_wireName named hg] at alike
  cases reserved : isReserved (snakeCase g.parameter.name) with
  | true =>
    rw [(wireName_of_reserved named hk (alike.trans reserved)).1,
      (wireName_of_reserved named hl reserved).1] at same
    exact List.inj_on_of_nodup_map parameters hf hg same
  | false =>
    rw [wireName_of_plain named hk (alike.trans reserved),
      wireName_of_plain named hl reserved] at same
    exact List.inj_on_of_nodup_map names hf hg same

end WellNamed

/-! ## What preflight told -/

/-- The parameters of a tool that preflight has nothing against are passed under the names that it
told, but for those whose names earlier fields have taken on. -/
theorem parameters_passed {w : Workflow} {i j : Nat} {a : Agent} {t : Tool}
    (ha : w.agents[i]? = some a) (ht : a.tools[j]? = some t) (passes : ToolPasses w i j) :
    PassedAsTold w i j t := by
  have named := wellNamed_of_toolPasses ha ht passes
  refine ⟨Tools.parameters_schemaFields t, ?told, fun _ _ here => wireName_eq_iff named here,
    fun _ _ here taken => wireName_of_nameTaken named here taken, nodup_wireNames named⟩
  case told =>
    intro k p hp name
    have here : ((Scope.parameters i j).names w)[k]? = some p.name := by
      rw [names_parameters ha ht, List.getElem?_map, hp, Option.map_some]
    have inside := List.mem_map_of_mem (f := Parameter.name) (List.mem_of_getElem? hp)
    exact announces_iff here (named.filled _ inside) (named.free _ inside)

/-- A tool with a parameter whose field takes on the name of the parameter behind it. -/
def lookup : Tool where
  name := "lookup"
  parameters := [{ name := "_x" }, { name := "param_x" }]

def lookups : Workflow where
  agents := [{ id := "a", name := "writer", tools := [lookup] }]

/-- The hypothesis holds of a tool whose second parameter is not passed under its own name. -/
theorem lookup_passed : ToolPasses lookups 0 0 ∧ PassedAsTold lookups 0 0 lookup ∧
    Announces lookups (.parameters 0 0) 1 "param_x" ∧
    (schemaFields lookup).map wireName = ["_x", "param_x_2"] := by
  have none : lookups.preflight.errors = [] := by decide +kernel
  have passes : ToolPasses lookups 0 0 := by
    rw [ToolPasses, none]
    exact List.forall_mem_nil _
  have passed := parameters_passed (w := lookups) (i := 0) (j := 0) (t := lookup) rfl rfl passes
  refine ⟨passes, passed, (passed.told 1 _ rfl _).mpr ?_, ?_⟩
  · decide +kernel
  · decide +kernel

end Preflight

end AgentWorkflow
