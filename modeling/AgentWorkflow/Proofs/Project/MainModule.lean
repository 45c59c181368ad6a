import AgentWorkflow.Project.MainModule
import AgentWorkflow.Proofs.Project.Words
import AgentWorkflow.Proofs.Workflow.Rewording

/-!
# The main modules of twin workflows

Two workflows that differ in wording alone have main modules that are twins. Every part of the
module is shown to be a twin of the same part for the other workflow, from the innermost
expressions outwards: the agents' factories, the assembly, and the lines around them.
-/

namespace AgentWorkflow

namespace Project

open Source
open Naming (IsWord)

-- the fixed texts are scanned point by point
set_option maxRecDepth 4000

variable {s : List CodePoint}

/-! ## Agent factories -/

theorem twins_memory (memory : Memory) : Twins memory.expression memory.expression s s := by
  cases memory with
  | session => exact twins_fixed (by decide)
  | bank project region =>
    have location : Twins (", location=" ++ (literal region ++ ")"))
        (", location=" ++ (literal region ++ ")")) (('(' : CodePoint) :: s) s :=
      (twins_fixed (by decide)).append
        (twins_literal_append region region rfl rfl (twins_closes (by decide)))
    simp only [Memory.expression, List.append_assoc]
    refine (twins_opens (c := '(') (by decide)).append ?_
    cases project with
    | none => exact (twins_fixed (by decide)).append location
    | some project => exact twins_literal_append project project rfl rfl location

theorem twins_client {a b : Agent} (h : a.Reworded b) :
    Twins (clientExpression a) (clientExpression b) s s := by
  have sameClass : clientClass a = clientClass b := by rw [clientClass, clientClass, h.family]
  have sameTemperature : emittedTemperature a = emittedTemperature b := by
    rw [emittedTemperature, emittedTemperature, h.temperature]
  have finite : (emittedTemperature b).isFinite := by
    rw [emittedTemperature]
    split
    · assumption
    · rfl
  have client : Twins (clientClass b) (clientClass b) s s := by
    rw [clientClass]
    split <;> exact twins_fixed (by decide)
  have number : ∀ {s}, Twins (emittedTemperature b).text (emittedTemperature b).text s s :=
    twins_inert fun c hc => isInert_of_isNumberPoint (Binary64.isNumberPoint_of_mem_text finite hc)
  simp only [clientExpression, sameClass, sameTemperature, List.append_assoc]
  refine client.append ((twins_opens (c := '(') (by decide)).append ?_)
  exact twins_literal_append _ _ rfl rfl
    ((twins_fixed (by decide)).append (number.append (twins_closes (by decide))))

theorem twins_toolReferences {a b : Agent} (h : a.Reworded b) :
    Twins (Text.unlines (toolReferences a)) (Text.unlines (toolReferences b)) s s := by
  simp only [toolReferences, Tools.functionsOf_eq_of_reworded h]
  split
  · exact twins_fixed (by decide)
  · refine .lines_append (.lines_append (m := ('[' : CodePoint) :: s)
      (twins_opens (by decide)) ?_) (twins_closes (c := '[') (by decide))
    refine .lines_map (R := fun f g => f ∈ Tools.functionsOf b ∧ f = g)
      (List.forall₂_same.mpr fun f hf => ⟨hf, rfl⟩) ?_
    rintro f _ ⟨hf, rfl⟩
    simp only [line, List.append_assoc]
    exact (twins_indent 3).append ((twins_fixed (by decide)).append
      ((twins_word (Tools.isWord_of_mem_functionsOf hf)).append (twins_fixed (by decide))))

theorem twins_factoryName {identifier : Text} (h : IsWord identifier) :
    Twins (factoryName identifier) (factoryName identifier) s s :=
  (twins_fixed (by decide)).append (twins_word h)

/-- Factories of agents that differ in descriptions only have the same code between literals. -/
theorem twins_factory (memory : Memory) {identifier : Text} (hi : IsWord identifier) {a b : Agent}
    (h : a.Reworded b) :
    Twins (Text.unlines (factory memory identifier a)) (Text.unlines (factory memory identifier b))
      s s := by
  have header : Twins (("def " ++ factoryName identifier ++ "() -> Agent:") ++ "\n")
      (("def " ++ factoryName identifier ++ "() -> Agent:") ++ "\n") s s :=
    .line (.append (.append (twins_fixed (by decide)) (twins_factoryName hi))
      (twins_fixed (by decide)))
  have client : Twins (line 2 ("llm=" ++ clientExpression a ++ ",") ++ "\n")
      (line 2 ("llm=" ++ clientExpression b ++ ",") ++ "\n")
      (('(' : CodePoint) :: s) (('(' : CodePoint) :: s) :=
    .line (.append (twins_indent 2) (.append (.append (twins_fixed (by decide)) (twins_client h))
      (twins_fixed (by decide))))
  have remembering : Twins (line 2 ("memory=" ++ memory.expression ++ ",") ++ "\n")
      (line 2 ("memory=" ++ memory.expression ++ ",") ++ "\n")
      (('(' : CodePoint) :: s) (('(' : CodePoint) :: s) :=
    .line (.append (twins_indent 2) (.append (.append (twins_fixed (by decide))
      (twins_memory memory)) (twins_fixed (by decide))))
  have prompt : Twins
      (line 2 ("system_prompt=" ++ multilineLiteral (indent 2) a.systemPrompt ++ ",") ++ "\n")
      (line 2 ("system_prompt=" ++ multilineLiteral (indent 2) b.systemPrompt ++ ",") ++ "\n")
      (('(' : CodePoint) :: s) (('(' : CodePoint) :: s) := by
    simp only [line, List.append_assoc]
    exact (twins_indent 2).append
      (twins_prompt a.systemPrompt b.systemPrompt rfl rfl (twins_fixed (by decide)))
  unfold factory
  refine .lines_append (.lines_append (.lines_append (m := s)
    (.lines_append (.lines_singleton header) (twins_docstring 1 (by simp) (by simp)))
    (e := ('(' : CodePoint) :: s) ?_) (twins_toolReferences h)) (twins_closes (by decide))
  refine .lines_cons (m := ('(' : CodePoint) :: s) (twins_opens (by decide)) ?_
  refine .lines_cons (twins_entry 2 identifier identifier (by decide) (by decide) (by decide)) ?_
  refine .lines_cons client (.lines_cons remembering (.lines_cons prompt ?_))
  refine .lines_cons (twins_entry 2 _ _ (by decide) (by decide) (by decide)) ?_
  exact .lines_singleton (twins_entry 2 _ _ (by decide) (by decide) (by decide))

/-! ## The assembly -/

namespace Assembly

variable {a : Assembly}

theorem twins_agentVariable {identifier : Text} (h : IsWord identifier) :
    Twins (agentVariable identifier) (agentVariable identifier) s s :=
  (twins_fixed (by decide)).append (twins_word h)

/-- Lines made of one member each are their own twins if each of them is. -/
theorem twins_memberLines (hm : ∀ i ∈ a.members, IsWord i) {f : Text → Text}
    (hf : ∀ i, IsWord i → Twins (f i ++ "\n") (f i ++ "\n") s s) :
    Twins (Text.unlines (a.members.map f)) (Text.unlines (a.members.map f)) s s :=
  .lines_map (R := fun i j => IsWord i ∧ i = j) (List.forall₂_same.mpr fun i hi => ⟨hm i hi, rfl⟩)
    fun i _ ⟨hi, hij⟩ => hij ▸ hf i hi

theorem twins_instances (hm : ∀ i ∈ a.members, IsWord i) :
    Twins (Text.unlines a.instances) (Text.unlines a.instances) s s := by
  refine .lines_append (twins_fixed (by decide)) (twins_memberLines hm fun i hi => .line ?_)
  exact (twins_indent 1).append ((((twins_agentVariable hi).append (twins_fixed (by decide))).append
    (twins_factoryName hi)).append (twins_fixed (by decide)))

theorem twins_agentsArgument (hm : ∀ i ∈ a.members, IsWord i) :
    Twins (Text.unlines a.agentsArgument) (Text.unlines a.agentsArgument) s s := by
  refine .lines_append (.lines_append (twins_opens (c := '[') (by decide))
    (twins_memberLines hm fun i hi => .line ?_)) (twins_closes (by decide))
  exact (twins_indent 3).append ((twins_agentVariable hi).append (twins_fixed (by decide)))

theorem twins_supervisorLine (entry : Text × List Text) :
    Twins (supervisorLine entry ++ "\n") (supervisorLine entry ++ "\n") s s := by
  have reports : Twins (": [" ++ (Text.join ", " (entry.2.map literal) ++ ("]," ++ "\n")))
      (": [" ++ (Text.join ", " (entry.2.map literal) ++ ("]," ++ "\n"))) s s :=
    (twins_opens (c := '[') (by decide)).append
      (twins_join_literals entry.2 (by decide) (twins_closes (by decide)))
  simp only [supervisorLine, line, List.append_assoc]
  exact (twins_indent 3).append (twins_literal_append entry.1 entry.1 rfl rfl reports)

theorem twins_structureArgument :
    Twins (Text.unlines a.structureArgument) (Text.unlines a.structureArgument) s s := by
  unfold structureArgument
  split
  · exact twins_fixed (by decide)
  · refine .lines_append (.lines_append (twins_opens (c := '\x7b') (by decide)) ?_)
      (twins_closes (c := '\x7b') (by decide))
    exact .lines_map (R := Eq) (List.forall₂_same.mpr fun _ _ => rfl)
      fun entry _ h => h ▸ twins_supervisorLine entry

theorem twins_comment (hm : ∀ i ∈ a.members, IsWord i) :
    Twins (Text.unlines a.comment) (Text.unlines a.comment) s s := by
  unfold comment
  split
  · refine .lines_cons (twins_fixed ?_) (.lines_cons (twins_fixed ?_)
      (.lines_singleton (Source.twins_comment 1 (newline_not_mem_chain hm))))
    all_goals
      rw [Text.ofString_ofList]
      decide
  all_goals
    refine twins_fixed ?_
    repeat rw [Text.ofString_ofList]
    decide

theorem twins_statement (hm : ∀ i ∈ a.members, IsWord i) :
    Twins (Text.unlines a.statement) (Text.unlines a.statement) s s := by
  have opened : Twins (Text.unlines [line 1 ("workflow = " ++ a.kind.name ++ "(")])
      (Text.unlines [line 1 ("workflow = " ++ a.kind.name ++ "(")]) s (('(' : CodePoint) :: s) := by
    cases a.kind <;> exact twins_opens (by decide)
  refine .lines_append (.lines_append (.lines_append opened (twins_agentsArgument hm)) ?_)
    (twins_closes (c := '(') (by decide))
  split
  · exact twins_structureArgument
  · exact .nil

theorem twins_lines (hm : ∀ i ∈ a.members, IsWord i) :
    Twins (Text.unlines a.lines) (Text.unlines a.lines) s s :=
  .lines_append (.lines_append (.lines_append (.lines_append (twins_instances hm)
    (twins_fixed (by decide))) (twins_comment hm)) (twins_statement hm)) (twins_fixed (by decide))

theorem isWord_of_mem_members {agents : List Agent} {h : Hierarchy} {i : Text}
    (hi : i ∈ (ofHierarchy (agentIdentifiers agents) h).members) : IsWord i := by
  obtain ⟨id, -, rfl⟩ := List.mem_map.mp hi
  exact isWord_agentIdentifier agents id

end Assembly

/-! ## The module -/

theorem twins_mainHeader (kind : WorkflowKind) :
    Twins (Text.unlines (mainHeader kind)) (Text.unlines (mainHeader kind)) s s := by
  refine twins_fixed ?_
  cases kind
  all_goals
    simp only [mainHeader, WorkflowKind.name, fixed, List.map]
    repeat rw [Text.ofString_ofList]
    decide

theorem twins_imports {v w : Workflow} (h : v.Reworded w) :
    Twins (Text.unlines (imports v)) (Text.unlines (imports w)) s s := by
  simp only [imports, h.kind, h.deployment, usesOther_eq_of_reworded h.agents,
    usesFamily_eq_of_reworded h.agents]
  refine .lines_then (.lines_then (.lines_then (.lines_then (.lines_then
    (twins_fixed ?first) ?kind) ?openai) ?vertex) ?memory) (twins_fixed ?last)
  case first | last =>
    simp only [fixed, List.map]
    repeat rw [Text.ofString_ofList]
    decide
  case kind =>
    cases w.kind
    all_goals
      refine twins_fixed ?_
      simp only [WorkflowKind.name]
      repeat rw [Text.ofString_ofList]
      decide
  case openai | vertex =>
    split
    all_goals
      refine twins_fixed ?_
      repeat rw [Text.ofString_ofList]
      decide
  case memory =>
    cases Memory.ofDeployment w.deployment
    all_goals
      refine twins_fixed ?_
      rw [Memory.importLine, Text.ofString_ofList]
      decide

theorem twins_openaiGuard : Twins (Text.unlines openaiGuard) (Text.unlines openaiGuard) s s := by
  refine twins_fixed ?_
  simp only [openaiGuard, fixed, List.map]
  repeat rw [Text.ofString_ofList]
  decide

theorem twins_googleGuard : Twins (Text.unlines googleGuard) (Text.unlines googleGuard) s s := by
  refine twins_fixed ?_
  simp only [googleGuard, fixed, List.map]
  repeat rw [Text.ofString_ofList]
  decide

theorem twins_guards {v w : Workflow} (h : v.Reworded w) :
    Twins (Text.unlines (guards v)) (Text.unlines (guards w)) s s := by
  have same : guards v = guards w := by
    rw [guards, guards, usesGoogle, usesGoogle, h.deployment, usesOther_eq_of_reworded h.agents,
      usesFamily_eq_of_reworded h.agents]
  rw [same, guards]
  refine .lines_then ?openai ?google
  case openai =>
    split
    · exact twins_openaiGuard
    · exact .nil
  case google =>
    split
    · exact twins_googleGuard
    · exact .nil

theorem twins_greeting (a b : Agent) :
    Twins (Text.unlines (greeting a)) (Text.unlines (greeting b)) s s := by
  refine .lines_cons (m := s) ?_ (.lines_singleton ?_)
  all_goals
    rw [List.append_assoc, List.append_assoc]
    exact (twins_fixed (by decide)).append (twins_literal_append _ _ rfl rfl twins_newline)

theorem twins_factories (agents : List Agent) (memory : Memory) {as bs : List Agent}
    (h : List.Forall₂ Agent.Reworded as bs) :
    Twins (Text.unlines (factories (agentIdentifiers agents) memory as))
      (Text.unlines (factories (agentIdentifiers agents) memory bs)) s s := by
  refine .lines_flatMap h fun a b hab => .lines_append (twins_fixed (by decide)) ?_
  rw [hab.id]
  exact twins_factory memory (isWord_agentIdentifier agents b.id) hab

theorem twins_chatStart {a : Assembly} (hm : ∀ i ∈ a.members, IsWord i) :
    Twins (Text.unlines (chatStart a)) (Text.unlines (chatStart a)) s s := by
  refine .lines_append (.lines_append (twins_fixed ?_) (Assembly.twins_lines hm))
    (twins_fixed (by decide))
  simp only [fixed, List.map]
  repeat rw [Text.ofString_ofList]
  decide

theorem twins_messageHandler :
    Twins (Text.unlines messageHandler) (Text.unlines messageHandler) s s := by
  refine twins_fixed ?_
  simp only [messageHandler, fixed, List.map]
  repeat rw [Text.ofString_ofList]
  decide

theorem twins_chatProfile (kind : WorkflowKind) :
    Twins (Text.unlines (chatProfile kind)) (Text.unlines (chatProfile kind)) s s := by
  refine twins_fixed ?_
  cases kind
  all_goals
    simp only [chatProfile, profileDescription, fixed, List.map]
    repeat rw [Text.ofString_ofList]
    decide

theorem twins_server : Twins (Text.unlines server) (Text.unlines server) s s := by
  refine twins_fixed ?_
  simp only [server, fixed, List.map]
  repeat rw [Text.ofString_ofList]
  decide

/-- Workflows that differ in wording alone have main modules that are twins. -/
theorem twins_mainModule {v w : Workflow} (r : v.Reworded w) (h : Hierarchy) :
    Twins (mainModule v h) (mainModule w h) [] [] := by
  unfold mainModule mainLines
  have same := r.agents
  cases hv : v.agents with
  | nil =>
    rw [hv, List.forall₂_nil_left_iff] at same
    simp only [same]
    refine twins_fixed (t := Text.unlines emptyMainModule) ?_
    simp only [emptyMainModule, fixed, List.map]
    repeat rw [Text.ofString_ofList]
    decide
  | cons a as =>
    obtain ⟨b, bs, -, -, hw⟩ := List.forall₂_cons_left_iff.mp (hv ▸ same)
    simp only [hw, ← hv, r.kind, r.deployment]
    rw [← hw, agentIdentifiers_eq_of_reworded same]
    exact .lines_append (.lines_append (.lines_append (.lines_append (.lines_append (.lines_append
      (.lines_append (.lines_append (twins_mainHeader w.kind) (twins_imports r)) (twins_guards r))
      (twins_greeting a b)) (twins_factories w.agents _ same))
      (twins_chatStart fun _ => Assembly.isWord_of_mem_members)) twins_messageHandler)
      (twins_chatProfile w.kind)) twins_server

end Project

end AgentWorkflow
