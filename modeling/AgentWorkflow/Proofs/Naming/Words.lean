import AgentWorkflow.Naming.Distinct
import AgentWorkflow.Naming.Identifier
import AgentWorkflow.Proofs.Text.Points
import AgentWorkflow.Tools.Catalogue

/-!
# The points of generated names

However strange the texts that names are made from, the names themselves hold small letters, digits
and underscores; a class name may hold capitals too. Numbering repeated names changes nothing in
this.

Results:
1. `isSnakePoint_of_mem_identifier`, `isSnakePoint_of_mem_toolFunction`: identifiers.
2. `Tools.isWord_function`, `Tools.isWord_schema`, `Tools.isWord_field`: names of the catalogue.
3. `isSnakePoint_of_mem_agentIdentifiers`: the identifiers of agents, whatever id is asked for.
-/

namespace AgentWorkflow

namespace Naming

variable {c : CodePoint} {t : Text}

theorem mem_collapse {keep : CodePoint → Bool} {filler : CodePoint} {inRun : Bool}
    (h : c ∈ collapse keep filler inRun t) : (c ∈ t ∧ keep c) ∨ c = filler := by
  induction t generalizing inRun with
  | nil => simp [collapse] at h
  | cons d t ih =>
    have later : (c ∈ t ∧ keep c) ∨ c = filler → (c ∈ d :: t ∧ keep c) ∨ c = filler :=
      fun h => h.imp_left fun ⟨hm, hk⟩ => ⟨List.mem_cons_of_mem d hm, hk⟩
    simp only [collapse] at h
    split at h
    · next hk =>
      rcases List.mem_cons.mp h with rfl | h
      · exact .inl ⟨List.mem_cons_self, hk⟩
      · exact later (ih h)
    · split at h
      · exact later (ih h)
      · rcases List.mem_cons.mp h with rfl | h
        · exact .inr rfl
        · exact later (ih h)

theorem mem_guardDigit (h : c ∈ guardDigit t) : c = '_' ∨ c ∈ t := by
  cases t with
  | nil => simp [guardDigit] at h
  | cons d t =>
    simp only [guardDigit] at h
    split at h
    · exact List.mem_cons.mp h
    · exact .inr h

theorem isSnakePoint_of_mem_snakeCase (h : c ∈ snakeCase t) : isSnakePoint c := by
  simp only [snakeCase] at h
  split at h
  · revert c
    decide
  · rcases mem_guardDigit h with rfl | h
    · decide
    · rcases mem_collapse h with ⟨-, h⟩ | rfl
      · exact h
      · decide

theorem isSnakePoint_of_mem_identifier (h : c ∈ identifier t) : isSnakePoint c := by
  simp only [identifier] at h
  split at h
  · rcases List.mem_append.mp h with h | h
    · exact isSnakePoint_of_mem_snakeCase h
    · rw [List.mem_singleton.mp h]
      decide
  · exact isSnakePoint_of_mem_snakeCase h

theorem isSnakePoint_of_mem_toolFunction (h : c ∈ toolFunction t) : isSnakePoint c := by
  simp only [toolFunction] at h
  split at h
  · rcases List.mem_append.mp h with h | h
    · exact isSnakePoint_of_mem_identifier h
    · rw [List.mem_singleton.mp h]
      decide
  · exact isSnakePoint_of_mem_identifier h

/-! ## Class names -/

def isWordPoint (c : CodePoint) : Bool := c.isAlnum || c = '_'

/-- A name that holds word points only. -/
def IsWord (t : Text) : Prop := ∀ c ∈ t, isWordPoint c

theorem isWordPoint_of_isSnakePoint (h : isSnakePoint c) : isWordPoint c := by
  simp only [isSnakePoint, isWordPoint, CodePoint.isAlnum, CodePoint.isLetter, Bool.or_eq_true] at *
  rcases h with (h | h) | h <;> simp [h]

theorem isAlnum_asciiUpper (h : c.isAlnum) : c.asciiUpper.isAlnum := by
  unfold CodePoint.asciiUpper
  split
  · next hl =>
    simp only [CodePoint.isLower, Bool.and_eq_true, decide_eq_true_eq] at hl
    have hv : (CodePoint.ofNat (c.val - 32)).val = c.val - 32 :=
      CodePoint.val_ofNat (by have := c.val_lt; omega)
    simp only [CodePoint.isAlnum, CodePoint.isLetter, CodePoint.isUpper, hv, Bool.or_eq_true,
      Bool.and_eq_true, decide_eq_true_eq]
    exact .inl (.inr (by omega))
  · exact h

theorem isAlnum_of_mem_capitalize (h : ∀ d ∈ t, d.isAlnum) (hc : c ∈ capitalize t) :
    c.isAlnum := by
  cases t with
  | nil => cases hc
  | cons d t =>
    rcases List.mem_cons.mp hc with rfl | hc
    · exact isAlnum_asciiUpper (h d List.mem_cons_self)
    · exact h c (List.mem_cons_of_mem d hc)

/-- The words of a text, capitalized and joined, hold letters and digits. -/
theorem isAlnum_of_mem_capitalized (h : c ∈ (t.runs CodePoint.isAlnum).flatMap capitalize) :
    c.isAlnum := by
  obtain ⟨run, hr, hc⟩ := List.mem_flatMap.mp h
  exact isAlnum_of_mem_capitalize (fun d hd => (Text.mem_runs hr hd).2) hc

theorem isWordPoint_of_mem_pascalCase (h : c ∈ pascalCase t) : isWordPoint c := by
  simp only [pascalCase] at h
  split at h
  · revert c
    decide
  · rcases mem_guardDigit h with rfl | h
    · decide
    · simp [isWordPoint, isAlnum_of_mem_capitalized h]

/-! ## Distinct names -/

theorem mem_numbered {n : Nat} (h : c ∈ numbered t n) : c ∈ t ∨ c = '_' ∨ c.isDigit := by
  rcases List.mem_append.mp h with h | h
  · rcases List.mem_append.mp h with h | h
    · exact .inl h
    · exact .inr (.inl (List.mem_singleton.mp h))
  · exact .inr (.inr (Text.isDigit_of_mem_ofNat h))

/-- What holds of all given names and is kept by numbering holds of the distinct names. -/
theorem distinctFrom_induction {P : Text → Prop} (hn : ∀ name n, P name → P (numbered name n))
    {taken seen names : List Text} (h : ∀ name ∈ names, P name) :
    ∀ name ∈ distinctFrom taken seen names, P name := by
  induction names generalizing taken seen with
  | nil => simp [distinctFrom]
  | cons name rest ih =>
    have hname := h name List.mem_cons_self
    have hrest : ∀ n ∈ rest, P n := fun n hr => h n (List.mem_cons_of_mem name hr)
    simp only [distinctFrom]
    split
    · exact List.forall_mem_cons.mpr ⟨hn name _ hname, ih hrest⟩
    · exact List.forall_mem_cons.mpr ⟨hname, ih hrest⟩

theorem distinct_induction {P : Text → Prop} (hn : ∀ name n, P name → P (numbered name n))
    {names : List Text} (h : ∀ name ∈ names, P name) : ∀ name ∈ distinct names, P name :=
  distinctFrom_induction hn h

theorem isSnakePoint_of_mem_numbered {n : Nat} (h : ∀ c ∈ t, isSnakePoint c) :
    ∀ c ∈ numbered t n, isSnakePoint c := by
  intro c hc
  rcases mem_numbered hc with hc | rfl | hc
  · exact h c hc
  · decide
  · simp [isSnakePoint, hc]

theorem isWordPoint_of_mem_numbered {n : Nat} (h : ∀ c ∈ t, isWordPoint c) :
    ∀ c ∈ numbered t n, isWordPoint c := by
  intro c hc
  rcases mem_numbered hc with hc | rfl | hc
  · exact h c hc
  · decide
  · simp [isWordPoint, CodePoint.isAlnum, hc]

theorem isWord_identifier (t : Text) : IsWord (identifier t) := fun _ hc =>
  isWordPoint_of_isSnakePoint (isSnakePoint_of_mem_identifier hc)

theorem isWord_toolFunction (t : Text) : IsWord (toolFunction t) := fun _ hc =>
  isWordPoint_of_isSnakePoint (isSnakePoint_of_mem_toolFunction hc)

end Naming

/-! ## The catalogue -/

namespace Tools

open Naming (IsWord)

variable {c : CodePoint}

theorem mem_zipWith {α β γ : Type} {f : α → β → γ} {xs : List α} {ys : List β} {z : γ}
    (h : z ∈ xs.zipWith f ys) : ∃ x ∈ xs, ∃ y ∈ ys, z = f x y := by
  rw [← List.map_uncurry_zip_eq_zipWith] at h
  obtain ⟨⟨x, y⟩, hxy, rfl⟩ := List.mem_map.mp h
  obtain ⟨hx, hy⟩ := List.of_mem_zip hxy
  exact ⟨x, hx, y, hy, rfl⟩

theorem parameter_mem_of_mem_schemaFields {t : Tool} {f : SchemaField} (hf : f ∈ schemaFields t) :
    f.parameter ∈ t.parameters := by
  obtain ⟨name, -, ⟨wanted, parameter⟩, hp, rfl⟩ := mem_zipWith hf
  exact (List.of_mem_zip hp).2

theorem mem_of_mem_keepFirst {t : Tool} {seen : List Text} {tools : List Tool}
    (h : t ∈ keepFirst seen tools) : t ∈ tools := by
  induction tools generalizing seen with
  | nil => simp [keepFirst] at h
  | cons u tools ih =>
    rw [keepFirst] at h
    split at h
    · exact List.mem_cons_of_mem u (ih h)
    · exact List.mem_cons.mpr ((List.mem_cons.mp h).imp_right ih)

theorem tool_mem_of_mem_catalogue {agents : List Agent} {d : ToolDefinition}
    (hd : d ∈ catalogue agents) : ∃ a ∈ agents, d.tool ∈ a.tools := by
  obtain ⟨t, ht, schema, -, rfl⟩ := mem_zipWith hd
  exact List.mem_flatMap.mp (mem_of_mem_keepFirst ht)

theorem isWord_function {agents : List Agent} {d : ToolDefinition} (hd : d ∈ catalogue agents) :
    IsWord d.function := by
  obtain ⟨t, -, schema, -, rfl⟩ := mem_zipWith hd
  exact Naming.isWord_toolFunction t.name

theorem isWord_of_mem_functionsOf {a : Agent} {f : Text} (h : f ∈ functionsOf a) : IsWord f := by
  obtain ⟨t, -, rfl⟩ := List.mem_map.mp (List.mem_eraseDups.mp h)
  exact Naming.isWord_toolFunction t.name

theorem isWord_schema {agents : List Agent} {d : ToolDefinition} (hd : d ∈ catalogue agents) :
    IsWord d.schema := by
  obtain ⟨t, -, schema, hs, rfl⟩ := mem_zipWith hd
  refine Naming.distinct_induction (P := IsWord)
    (fun _ _ => Naming.isWordPoint_of_mem_numbered) ?_ schema hs
  intro name hname c hc
  obtain ⟨u, -, rfl⟩ := List.mem_map.mp hname
  rcases List.mem_append.mp hc with hc | hc
  · exact Naming.isWordPoint_of_mem_pascalCase hc
  · exact (by decide : ∀ c ∈ ("Input" : Text), Naming.isWordPoint c) c hc

theorem mem_fieldName {name : Text} (h : c ∈ fieldName name) :
    c ∈ ("param_" : Text) ∨ c ∈ name := by
  simp only [fieldName] at h
  split at h
  · exact (List.mem_append.mp h).imp_left
      ((by decide : ∀ c ∈ ("param" : Text), c ∈ ("param_" : Text)) c)
  · split at h
    · exact List.mem_append.mp h
    · exact .inr h

/-- What numbering keeps and the names that parameters ask for have, the names of fields have. -/
theorem schemaFields_induction {P : Text → Prop}
    (hn : ∀ name n, P name → P (Naming.numbered name n)) {t : Tool}
    (h : ∀ p ∈ t.parameters, P (fieldName (Naming.identifier p.name))) :
    ∀ f ∈ schemaFields t, P f.name := by
  intro f hf
  obtain ⟨name, hname, ⟨wanted, parameter⟩, -, rfl⟩ := mem_zipWith hf
  refine Naming.distinct_induction hn (fun name hname => ?_) name hname
  obtain ⟨raw, hraw, rfl⟩ := List.mem_map.mp hname
  obtain ⟨p, hp, rfl⟩ := List.mem_map.mp hraw
  exact h p hp

theorem isSnakePoint_of_mem_fieldName {t : Tool} {f : SchemaField} (hf : f ∈ schemaFields t)
    (hc : c ∈ f.name) : Naming.isSnakePoint c := by
  refine schemaFields_induction (P := fun name => ∀ c ∈ name, Naming.isSnakePoint c)
    (fun _ _ => Naming.isSnakePoint_of_mem_numbered) (fun p _ c hc => ?_) f hf c hc
  rcases mem_fieldName hc with hc | hc
  · exact (by decide : ∀ c ∈ ("param_" : Text), Naming.isSnakePoint c) c hc
  · exact Naming.isSnakePoint_of_mem_identifier hc

theorem isWord_field {t : Tool} {f : SchemaField} (hf : f ∈ schemaFields t) : IsWord f.name :=
  fun _ hc => Naming.isWordPoint_of_isSnakePoint (isSnakePoint_of_mem_fieldName hf hc)

theorem isWord_alias {t : Tool} {f : SchemaField} (hf : f ∈ schemaFields t) :
    ∀ wanted ∈ f.alias?, IsWord wanted := by
  obtain ⟨name, -, ⟨wanted, parameter⟩, hp, rfl⟩ := mem_zipWith hf
  intro reserved ha
  simp only [Option.mem_def, Option.ite_none_right_eq_some, Option.some.injEq] at ha
  obtain ⟨-, rfl⟩ := ha
  obtain ⟨p, -, hw⟩ := List.mem_map.mp (List.of_mem_zip hp).1
  exact hw ▸ Naming.isWord_identifier p.name

end Tools

/-- The identifier of an agent, and also what stands in for the identifier of an unknown id. -/
theorem isSnakePoint_of_mem_agentIdentifiers {agents : List Agent} {id : Text} {c : CodePoint}
    (h : c ∈ (Table.get? (agentIdentifiers agents) id).getD []) : Naming.isSnakePoint c := by
  cases hg : Table.get? (agentIdentifiers agents) id with
  | none => simp [hg] at h
  | some name =>
    rw [hg, Option.getD_some] at h
    have hname := (List.of_mem_zip (Table.mem_ofList (Table.mem_of_get? hg))).2
    refine Naming.distinct_induction (P := fun name => ∀ c ∈ name, Naming.isSnakePoint c)
      (fun _ _ => Naming.isSnakePoint_of_mem_numbered) ?_ name hname c h
    intro name hname c hc
    obtain ⟨a, -, rfl⟩ := List.mem_map.mp hname
    exact Naming.isSnakePoint_of_mem_identifier hc

theorem isWord_agentIdentifier (agents : List Agent) (id : Text) :
    Naming.IsWord ((Table.get? (agentIdentifiers agents) id).getD []) := fun _ hc =>
  Naming.isWordPoint_of_isSnakePoint (isSnakePoint_of_mem_agentIdentifiers hc)

end AgentWorkflow
