import AgentWorkflow.Project.Environment
import AgentWorkflow.Proofs.Source.Blocks
import AgentWorkflow.Proofs.Text.Splitting

/-!
# Reading an environment file

An environment file assigns variables, one on a line: a name, an equals sign and a value. All other
lines say nothing. A value is not quoted, so a line end in it ends the assignment, and what follows
is read as further lines.

Results:
1. `assignedNames_assignment`: an assignment, whatever its value is.
2. `assignedNames_environmentExample`: the variables that the example assigns.
-/

namespace AgentWorkflow

namespace Project

open Source

/-- The variable that a line assigns. -/
def assigned? (line : Text) : Option Text :=
  let name := line.takeWhile (· ≠ ('=' : CodePoint))
  if line.contains ('=' : CodePoint) && isKeyName name then some name else none

/-- The variables that an environment file assigns, in order. -/
def assignedNames (file : Text) : List Text := Text.onLines assigned? file

/-- The variables that are assigned behind the first line of a value. -/
def spilledNames (value : Text) : List Text := (Text.splitOn '\n' value).tail.filterMap assigned?

theorem assigned?_assignment {name : Text} (h : isKeyName name) (value : Text) :
    assigned? (name ++ "=" ++ value) = some name := by
  have taken : (name ++ "=" ++ value).takeWhile (· ≠ ('=' : CodePoint)) = name := by
    rw [List.append_assoc]
    exact (Text.span_ne (equals_not_mem_of_isKeyName h) value).1
  have sign : (name ++ "=" ++ value).contains ('=' : CodePoint) := by
    simp [Text.ofString]
  simp only [assigned?, taken, sign, h, Bool.and_self, if_true]

/-- A value can assign further variables, but it takes none away. -/
theorem assignedNames_assignment {name : Text} (h : isKeyName name) (value : Text) :
    assignedNames (name ++ "=" ++ value) = name :: spilledNames value := by
  have flat : ('\n' : CodePoint) ∉ name ++ ("=" : Text) := by
    rw [List.mem_append, not_or]
    refine ⟨fun hc => ?_, by decide⟩
    exact absurd ((isKeyName_iff.mp h).2 _ hc) (by decide)
  rw [assignedNames, Text.onLines, Text.splitOn_append flat, spilledNames]
  obtain ⟨piece, pieces, cut⟩ := List.exists_cons_of_ne_nil (Text.splitOn_ne_nil '\n' value)
  rw [cut, List.modifyHead_cons, List.filterMap_cons_some (assigned?_assignment h piece),
    List.tail_cons]

/-- The variables that the section for Google's services assigns. -/
def googleNames (d : Deployment) : List Text :=
  ("GOOGLE_CLOUD_PROJECT" : Text) :: spilledNames (orElse d.project "your-gcp-project-id")
    ++ ("GCP_REGION" : Text) :: spilledNames d.location
    ++ [("GOOGLE_APPLICATION_CREDENTIALS" : Text)]

theorem assignedNames_googleVariables (d : Deployment) :
    (googleVariables d).flatMap assignedNames = googleNames d := by
  have title : assignedNames "# Google Cloud" = [] := by decide +kernel
  have project := assignedNames_assignment (show isKeyName "GOOGLE_CLOUD_PROJECT" by decide)
    (orElse d.project "your-gcp-project-id")
  have region := assignedNames_assignment (show isKeyName "GCP_REGION" by decide) d.location
  have credentials : assignedNames
      "GOOGLE_APPLICATION_CREDENTIALS=/path/to/your/service-account-key.json"
      = [("GOOGLE_APPLICATION_CREDENTIALS" : Text)] := by
    rw [Text.ofString_ofList]
    decide +kernel
  have first : ("GOOGLE_CLOUD_PROJECT=" : Text) = "GOOGLE_CLOUD_PROJECT" ++ "=" := rfl
  have second : ("GCP_REGION=" : Text) = "GCP_REGION" ++ "=" := rfl
  simp only [googleVariables, List.flatMap_cons, List.flatMap_nil, title, first, second, project,
    region, credentials, googleNames, List.nil_append, List.append_nil]
  exact (List.append_assoc _ _ _).symm

/-- The variables that the example assigns. -/
theorem assignedNames_environmentExample (w : Workflow) : assignedNames (environmentExample w)
    = [("PORT" : Text)] ++ (if usesOther w.agents then [("OPENAI_API_KEY" : Text)] else [])
      ++ (if usesGoogle w then googleNames w.deployment else []) := by
  have blank : assigned? [] = none := rfl
  have listed : ∀ lines, assignedNames (Text.unlines lines) = lines.flatMap assignedNames :=
    Text.onLines_unlines blank
  have general : assignedNames (Text.unlines generalVariables) = [("PORT" : Text)] := by
    simp only [generalVariables, fixed, List.map]
    repeat rw [Text.ofString_ofList]
    decide +kernel
  have openai : assignedNames (Text.unlines openaiVariables) = [("OPENAI_API_KEY" : Text)] := by
    simp only [openaiVariables, fixed, List.map]
    repeat rw [Text.ofString_ofList]
    decide +kernel
  have google : assignedNames (Text.unlines (googleVariables w.deployment))
      = googleNames w.deployment := by
    rw [listed, assignedNames_googleVariables]
  have parts : assignedNames (environmentExample w)
      = (environmentSections w).flatMap fun lines => assignedNames (Text.unlines lines) := by
    rw [environmentExample, assignedNames, Text.onLines_join blank, List.flatMap_map]
    rfl
  rw [parts, environmentSections]
  simp only [List.flatMap_append, apply_ite (List.flatMap _), List.flatMap_singleton,
    List.flatMap_nil, general, openai, google]

end Project

end AgentWorkflow
