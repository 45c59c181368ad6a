import AgentWorkflow.Proofs.Project.Program
import AgentWorkflow.Proofs.Source.References

/-!
# What the main module takes from the tools module

The main module refers to the tools module in the factories of its agents and nowhere else. Names
that stand in literals or comments are no references, so no text of a workflow can make one.

Results:
1. `references_factory`: a factory refers to the functions of its agent's tools, each once.
2. `references_mainModule`: the references of the main module are those of its factories, in order.
-/

namespace AgentWorkflow

namespace Project

open Source
open Naming (IsWord)

theorem after?_toolReference (f : Text) :
    Text.after? (toolsAlias ++ ".") (toolReference f) = some f := Text.after?_eq_some_iff.mpr rfl

/-! ## A factory -/

/-- A number is no reference. -/
theorem referencesTo_number {t : Text} (h : ∀ c ∈ t, isNumberPoint c) :
    referencesTo toolsAlias (t.map .point) = [] := by
  refine List.filterMap_eq_nil_iff.mpr fun name hname => ?_
  refine Option.eq_none_iff_forall_not_mem.mpr fun rest hrest => ?_
  rw [stretches, visible_points, Text.after?_eq_some_iff.mp hrest] at hname
  have letter := (Text.mem_runs hname (List.mem_append_left rest (List.mem_append_left _
    (show ('a' : CodePoint) ∈ toolsAlias by decide)))).1
  exact absurd (h _ letter) (by decide)

theorem referencesTo_factoryWords :
    ∀ word ∈ factoryWords, referencesTo toolsAlias (word.map .point) = [] := by decide +kernel

theorem referencesTo_clientRun (a : Agent) : referencesTo toolsAlias (clientRun a) = [] := by
  have number := referencesTo_number fun c hc =>
    Binary64.isNumberPoint_of_mem_text (isFinite_emittedTemperature a) hc
  rw [view_clientRun isCallView_referencesTo referencesTo_factoryWords,
    referencesTo_word (isKeyName_clientClass a), number]
  rfl

theorem referencesTo_memoryRun (memory : Memory) :
    referencesTo toolsAlias (memoryRun memory) = [] := by
  cases memory with
  | session => decide +kernel
  | bank project region =>
    have stored : referencesTo toolsAlias (projectRun project) = [] := by
      cases project with
      | none => decide +kernel
      | some project => exact isCallView_referencesTo.text project
    rw [view_bank isCallView_referencesTo, stored, referencesTo_word (by decide),
      referencesTo_word (by decide), referencesTo_word (by decide)]
    rfl

/-- An agent refers to the functions of its tools, each once. -/
theorem referencesTo_toolsRun (a : Agent) :
    referencesTo toolsAlias (toolsRun a) = Tools.functionsOf a := by
  have each : ∀ f ∈ Tools.functionsOf a,
      referencesTo toolsAlias ((toolReference f).map .point) = [f] := by
    intro f hf
    obtain ⟨ne, point⟩ := isName_toolNames a (toolReference f) (List.mem_map_of_mem hf)
    rw [referencesTo, stretches_points ne point,
      List.filterMap_cons_some (after?_toolReference f)]
    rfl
  rw [view_toolsRun isCallView_referencesTo.toIsCutView, toolNames, List.flatMap_map,
    List.flatMap_congr each, ← List.map_eq_flatMap, List.map_id']

/-- A factory refers to the functions of its agent's tools, each once. -/
theorem references_factory (memory : Memory) {i : Text} (hi : IsWord i) (a : Agent) :
    Shows (referencesOf toolsAlias) (Text.unlines ([[], []] ++ factory memory i a))
      (Tools.functionsOf a) := by
  have blank : Shows (referencesOf toolsAlias) (Text.unlines [[], []]) [] :=
    shows_no_references (by decide)
  have made : Shows (referencesOf toolsAlias) (Text.unlines (factory memory i a))
      (Tools.functionsOf a) := by
    refine ⟨_, lays_factory (expresses_memory memory) hi a, ?_, ?_⟩
    · rintro l ⟨⟩
      rfl
    · have view := view_factoryBlock isCallView_referencesTo referencesTo_factoryWords memory hi a
      rw [referencesTo_word (isKeyName_factoryName hi), referencesTo_clientRun,
        referencesTo_memoryRun, referencesTo_toolsRun] at view
      exact view
  exact blank.before isPartwise_referencesOf made

/-! ## The start of a chat -/

section Chat

variable {a : Assembly} (hm : ∀ i ∈ a.members, IsWord i)

theorem referencesOf_chatHead : referencesOf toolsAlias (layout chatHead) = [] := by
  have none : (referencesOf toolsAlias (layout chatHead)).isEmpty := by
    simp only [chatHead, fixed, List.map]
    repeat rw [Text.ofString_ofList]
    decide +kernel
  exact List.isEmpty_iff.mp none

theorem referencesOf_chatEnd : referencesOf toolsAlias (layout chatEnd) = [] := by
  have none : (referencesOf toolsAlias (layout chatEnd)).isEmpty := by
    rw [chatEnd]
    repeat rw [Text.ofString_ofList]
    decide +kernel
  exact List.isEmpty_iff.mp none

include hm in
theorem referencesTo_joinRun : referencesTo toolsAlias a.joinRun = [] := by
  have members : a.members.flatMap (fun i =>
      referencesTo toolsAlias ((Assembly.agentVariable i).map .point)) = [] :=
    List.flatMap_eq_nil_iff.mpr fun i hi => referencesTo_word (Assembly.isKeyName_agentVariable (hm i hi))
  rw [view_joinRun isCallView_referencesTo, referencesTo_word (by decide),
    referencesTo_word (Assembly.isKeyName_kind a.kind), referencesTo_word (by decide), members,
    referencesTo_word (by decide)]
  simp

include hm in
theorem referencesOf_chatBody : referencesOf toolsAlias (chatBody a) = [] := by
  have made : a.members.flatMap (fun i =>
      referencesTo toolsAlias ((Assembly.agentVariable i).map .point)
        ++ referencesTo toolsAlias ((factoryName i).map .point)) = [] := by
    refine List.flatMap_eq_nil_iff.mpr fun i hi => ?_
    rw [referencesTo_word (Assembly.isKeyName_agentVariable (hm i hi)),
      referencesTo_word (isKeyName_factoryName (hm i hi))]
    rfl
  have last := referencesOf_chatEnd
  rw [referencesOf] at last
  rw [referencesOf, view_chatBody hm isCallView_referencesTo, made, referencesTo_joinRun hm, last]
  rfl

include hm in
theorem references_chatStart :
    Shows (referencesOf toolsAlias) (Text.unlines (chatStart a)) [] := by
  refine ⟨_, lays_chatStart hm, ?_, ?_⟩
  · obtain ⟨decorator, rest, hl, hd, -⟩ := List.map_eq_cons_iff.mp lays_chatHead.2
    rw [hl]
    rintro l ⟨⟩
    exact (Prod.mk.inj hd).1
  · have head := referencesOf_chatHead
    have body := referencesOf_chatBody hm
    rw [referencesOf] at head body
    rw [referencesOf, List.flatMap_append, head, body]
    rfl

end Chat

/-! ## The module -/

/-- The references of the main module are those of its factories, in order. -/
theorem references_mainModule (w : Workflow) (h : Hierarchy) :
    Shows (referencesOf toolsAlias) (mainModule w h) (w.agents.flatMap Tools.functionsOf) := by
  cases agents : w.agents with
  | nil =>
    have lines : mainModule w h = Text.unlines emptyMainModule := by
      rw [mainModule, mainLines, agents]
    rw [lines]
    exact fixedPart_emptyMainModule.refers
  | cons first others =>
    have members : ∀ i ∈ (Assembly.ofHierarchy (agentIdentifiers w.agents) h).members, IsWord i :=
      fun _ => Assembly.isWord_of_mem_members
    have lines : mainLines w h = (mainHeader w.kind ++ imports w ++ guards w ++ greeting first)
        ++ factories (agentIdentifiers w.agents) (Memory.ofDeployment w.deployment) w.agents
        ++ (chatStart (Assembly.ofHierarchy (agentIdentifiers w.agents) h)
          ++ (messageHandler ++ (chatProfile w.kind ++ server))) := by
      rw [mainLines, agents]
      simp only [List.append_assoc]
    have made : Shows (referencesOf toolsAlias) (Text.unlines
        (factories (agentIdentifiers w.agents) (Memory.ofDeployment w.deployment) w.agents))
        (w.agents.flatMap Tools.functionsOf) :=
      shows_flatMap isPartwise_referencesOf fun a _ =>
        references_factory _ (isWord_agentIdentifier w.agents a.id) a
    have part := @Shows.before _ _ (@isPartwise_referencesOf toolsAlias)
    have epilogue := part (references_chatStart members) (part fixedPart_messageHandler.refers
      (part (fixedPart_chatProfile w.kind).refers fixedPart_server.refers))
    have whole :=
      (part (silent_prologue w first).refers made).unlines isPartwise_referencesOf epilogue
    rw [List.append_nil] at whole
    rw [mainModule, lines, ← agents]
    exact whole

end Project

end AgentWorkflow
