import AgentWorkflow.Proofs.Workflow.Grammar
import AgentWorkflow.Proofs.Workflow.Messages

/-!
# Temperatures that stop the reader

A document that is no workflow is refused with a reason, with one exception: an integer beyond every
floating-point number in the place of a temperature stops the reader without one. Which documents
these are is said without the reader (`Overflows`).

Results:
1. `readEach_eq_error_iff`: a list of items stops the reader at the first that does.
2. `readAgent_eq_overflow_iff`: the agents that stop it.
3. `ofJson_eq_overflow_iff`: the documents that stop it.
-/

namespace AgentWorkflow

namespace Document

/-- The fields of an agent whose temperature stops the reader. Before the temperature it only looks
whether the tools are a list. -/
structure AgentOverflows (fields : Json.Fields) : Prop where
  tools : ListUnder fields "tools" fun _ => True
  temperature : ∃ n, Table.get? fields "temperature" = some (.int n) ∧ ¬HasNumber n

/-- The document has an agent whose temperature stops the reader, and the reader gets to it: the
agents in front of it are as they should be. -/
inductive Overflows : Json → Prop
  | intro {fields : Json.Fields} {before after : List Json} {agent : Json}
      (agents : Table.get? fields "agents" = some (.array (before ++ agent :: after)))
      (readable : ∀ item ∈ before, IsObject (IsAgent HasNumber) item)
      (overflows : IsObject AgentOverflows agent) : Overflows (.object fields)

/-! ## Readings that stop -/

section Stopping

variable {α β : Type} {r : Reading α} {f : α → Reading β} {e : DocumentError}

theorem StopsBy.ne_overflow (h : StopsBy IsReported r) : r ≠ .error .temperatureTooLarge := by
  intro stopped
  obtain ⟨reason, same, -⟩ := h _ stopped
  cases same

/-- A reading that ends with a part that is read or refused stops only before that part. -/
theorem bind_eq_overflow_iff (hf : ∀ x, StopsBy IsReported (f x)) :
    (r >>= f) = .error .temperatureTooLarge ↔ r = .error .temperatureTooLarge := by
  rw [bind_eq_error]
  exact or_iff_left fun ⟨x, _, stopped⟩ => (hf x).ne_overflow stopped

/-- The items are read up to the first that stops the reader, and those behind it are not. -/
theorem readEach_eq_error_iff {read : Nat → Json → Reading α} {R E : Json → Prop}
    (accepts : ∀ i item, Accepted (read i item) ↔ R item)
    (stops : ∀ i item, read i item = .error e ↔ E item) (i : Nat) (items : List Json) :
    readEach read i items = .error e ↔ ∃ before item after, items = before ++ item :: after ∧
      (∀ item ∈ before, R item) ∧ E item := by
  induction items generalizing i with
  | nil => simp [readEach]
  | cons first items ih =>
    have behind : (∃ x, read i first = .ok x ∧
        (readEach read (i + 1) items >>= fun xs => pure (x :: xs)) = .error e) ↔
        Accepted (read i first) ∧ readEach read (i + 1) items = .error e := by
      simp only [bind_eq_error, pure, Except.pure, reduceCtorEq, and_false, exists_false, or_false]
      exact exists_and_right
    rw [readEach, bind_eq_error, stops, behind, accepts, ih]
    constructor
    · rintro (stopped | ⟨accepted, before, item, after, rfl, readable, stopped⟩)
      · exact ⟨[], first, items, rfl, List.forall_mem_nil _, stopped⟩
      · have readable' := List.forall_mem_cons.mpr ⟨accepted, readable⟩
        exact ⟨first :: before, item, after, rfl, readable', stopped⟩
    · rintro ⟨before, item, after, cut, readable, stopped⟩
      cases before with
      | nil =>
        cases cut
        exact .inl stopped
      | cons first' before =>
        cases cut
        obtain ⟨head, tail⟩ := List.forall_mem_cons.mp readable
        exact .inr ⟨head, before, item, after, rfl, tail, stopped⟩

end Stopping

/-! ## Agents -/

variable {path : Path} {fields : Json.Fields} {name : Text}

theorem exists_readList_iff (path : Path) : (∃ items, readList path (Table.get? fields name)
    = .ok items) ↔ ListUnder fields name fun _ => True := by
  rw [ListUnder]
  cases Table.get? fields name with
  | none => simp [readList]
  | some value => cases value <;> simp [readList, refuse]

/-- Only an integer can be too large: texts and other numbers have a value, if an infinite one. -/
theorem readTemperature_eq_overflow_iff (path : Path) (given : Option Json) :
    readTemperature path given = .error .temperatureTooLarge ↔
      ∃ n, given = some (.int n) ∧ ¬HasNumber n := by
  -- as variables the two conversions are not worked out while the cases are told apart
  obtain ⟨number, hnumber⟩ : ∃ f, f = Binary64.ofInt? := ⟨_, rfl⟩
  obtain ⟨spelled, hspelled⟩ : ∃ f, f = Binary64.ofText? := ⟨_, rfl⟩
  unfold readTemperature
  rw [← hnumber, ← hspelled]
  rcases given with - | value
  · simp
  · cases value with
    | int n =>
      have fits : (number n).isSome ↔ HasNumber n := hnumber ▸ Binary64.isSome_ofInt? n
      cases hn : number n with
      | none =>
        have beyond : ¬HasNumber n := by simpa [hn] using fits.not
        simpa [hn] using beyond
      | some x =>
        have within : HasNumber n := by simpa [hn] using fits
        simpa [hn] using within
    | text t =>
      dsimp only
      cases spelled t <;> simp [refuse]
    | null | bool | real | array | object => simp [refuse]

/-- An agent overflows at its temperature. Before that the reader has only seen that the tools are a
list. -/
theorem readAgent_eq_overflow_iff (hp : path.all isKnown) (value : Json) :
    readAgent path value = .error .temperatureTooLarge ↔ IsObject AgentOverflows value := by
  constructor
  · intro stopped
    rcases readAgent_error_cases hp stopped with ⟨_, ⟨⟩, -⟩ | ⟨fields, items, object, listed, given⟩
    cases value with
    | object fields' =>
      cases object
      have tools := (exists_readList_iff _).mp ⟨items, listed⟩
      exact ⟨fields, rfl, tools, (readTemperature_eq_overflow_iff path _).mp given⟩
    | _ => cases object
  · rintro ⟨fields, rfl, tools, temperature⟩
    obtain ⟨items, listed⟩ := (exists_readList_iff (path.field "tools")).mpr tools
    have stopped := (readTemperature_eq_overflow_iff path _).mpr temperature
    simp only [readAgent, readObject, listed, stopped, bind, Except.bind]

/-! ## Documents -/

/-- The agents in front of the one that overflows have to be accepted. -/
theorem readAgents_eq_overflow_iff (fields : Json.Fields) :
    readAgents fields = .error .temperatureTooLarge ↔ Overflows (.object fields) := by
  constructor
  · intro stopped
    unfold readAgents at stopped
    split at stopped
    · cases stopped
    · next items found =>
      obtain ⟨before, agent, after, rfl, readable, overflows⟩ := (readEach_eq_error_iff
        (fun i => accepted_readAgent (Path.agent i))
        (fun i => readAgent_eq_overflow_iff (isKnown_agent i)) 0 items).mp stopped
      exact ⟨found, readable, overflows⟩
    · cases stopped
  · rintro ⟨found, readable, overflows⟩
    simp only [readAgents, found]
    exact (readEach_eq_error_iff (fun i => accepted_readAgent (Path.agent i))
      (fun i => readAgent_eq_overflow_iff (isKnown_agent i)) 0 _).mpr
        ⟨_, _, _, rfl, readable, overflows⟩

theorem ofJson_eq_overflow_iff (document : Json) :
    Workflow.ofJson document = .error .temperatureTooLarge ↔ Overflows document := by
  cases document with
  | object fields =>
    rw [← readAgents_eq_overflow_iff]
    exact bind_eq_overflow_iff fun agents => (stopsBy_readDeployment _).bind fun deployment =>
      (stopsBy_readKind _).bind fun kind => stopsBy_ok _
  | _ => exact iff_of_false (by rintro ⟨⟩) (by rintro ⟨⟩)

end Document

end AgentWorkflow
