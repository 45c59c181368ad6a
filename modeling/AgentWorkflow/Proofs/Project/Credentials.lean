import AgentWorkflow.Proofs.Project.Files
import AgentWorkflow.Proofs.Workflow.Unread

/-!
# Credentials stay out of a project

Key material that an editor leaves in a document stands under names that are not read. What is
read is a reference to the credentials. The guide alone is written with it, and only with the last
part of the path that it is without the blanks around it.

Results:
1. `guide_eq_iff`: when the guides for two references are the same.
2. `credentials_confined`: alike documents are read alike, and workflows that differ in the
   reference to their credentials are made into the same files, but for the guide if the key files
   are named differently.
3. `padded_names_differ`: the names of key files are told apart only behind the trimming.
-/

namespace AgentWorkflow

/-- The workflow with another reference to its credentials. -/
def Workflow.withCredential (w : Workflow) (ref : Text) : Workflow :=
  { w with deployment := { w.deployment with credentialRef := ref } }

namespace Project

/-- The name of the key file that a reference leads to, none for a blank one. -/
def keyFile? (ref : Text) : Option Text := if ref.isBlank then none else some (fileName ref.trim)

/-- The same files in the same order, whatever the guides say. -/
structure SameButGuide (files others : Table Text) : Prop where
  names : files.map (·.1) = others.map (·.1)
  contents : ∀ name ≠ guideName, Table.get? files name = Table.get? others name

/-! ## The guide -/

section Guide

variable {w : Workflow} {h : Hierarchy} {ref other : Text}

theorem not_mem_of_mem_splitOn {separator : CodePoint} {t piece : Text}
    (h : piece ∈ Text.splitOn separator t) : separator ∉ piece := by
  induction t generalizing piece with
  | nil =>
    rw [List.mem_singleton.mp h]
    exact List.not_mem_nil
  | cons c t ih =>
    rw [Text.splitOn] at h
    split at h
    · rcases List.mem_cons.mp h with rfl | h
      · exact List.not_mem_nil
      · exact ih h
    · next other =>
      have apart : ∀ {piece : Text}, separator ∉ piece → separator ∉ c :: piece :=
        fun absent hc => (List.mem_cons.mp hc).elim (fun same => other same.symm) absent
      split at h
      · rw [List.mem_singleton.mp h]
        exact apart List.not_mem_nil
      · next first rest pieces =>
        rcases List.mem_cons.mp h with rfl | h
        · exact apart (ih (pieces ▸ List.mem_cons_self))
        · exact ih (pieces ▸ List.mem_cons_of_mem first h)

/-- The name of a file has no slash in it. -/
theorem slash_not_mem_fileName (path : Text) : ('/' : CodePoint) ∉ fileName path := by
  unfold fileName
  generalize kept : ((Text.splitOn '/' path).filter fun p => !p.isEmpty && p ≠ ("." : Text)) = pieces
  cases found : pieces.getLast? with
  | none => exact List.not_mem_nil
  | some piece =>
    have last : piece ∈ pieces := List.mem_of_getLast? found
    rw [← kept] at last
    exact not_mem_of_mem_splitOn (List.mem_of_mem_filter last)

/-- The hint tells the name of the key file and nothing else of a reference. -/
theorem keyHint_eq_iff {d e : Deployment} :
    keyHint d = keyHint e ↔ keyFile? d.credentialRef = keyFile? e.credentialRef := by
  have hint : ∀ d : Deployment, keyHint d
      = ((keyFile? d.credentialRef).map fun name => Text.unlines
          ["", ("The builder was configured with a key file named `" : Text) ++ name
            ++ "`. Keep it outside this directory and point the variable at it."]).getD [] := by
    intro d
    unfold keyHint keyFile? Text.isBlank
    dsimp only
    split <;> rfl
  have told : ∀ {blank before behind name name' : Text},
      Text.unlines [blank, before ++ name ++ behind] = Text.unlines [blank, before ++ name' ++ behind]
        ↔ name = name' := by
    simp [Text.unlines]
  have some_hint : ∀ {lines : List Text} {line : Text}, Text.unlines (line :: lines) ≠ [] := by
    simp [Text.unlines, Text.ofString]
  rw [hint, hint]
  cases keyFile? d.credentialRef with
  | none =>
    cases keyFile? e.credentialRef with
    | none => exact iff_of_true rfl rfl
    | some name => exact iff_of_false (Ne.symm some_hint) (Ne.symm (Option.some_ne_none name))
  | some name =>
    cases keyFile? e.credentialRef with
    | none => exact iff_of_false some_hint (Option.some_ne_none name)
    | some name' => exact told.trans (Option.some_inj).symm

/-- The guides for two references are the same if and only if the names of their key files are. -/
theorem guide_eq_iff : guide (w.withCredential ref) h = guide (w.withCredential other) h ↔
    keyFile? ref = keyFile? other := by
  have shape : ∀ a b c d e : Text, Text.join "\n" [a, b, c, d, e]
      = (a ++ "\n" ++ b ++ "\n" ++ c ++ "\n") ++ d ++ ("\n" ++ e) := by
    intros
    simp [Text.join, List.intercalate]
  rw [guide, guide, shape, shape]
  refine (List.append_left_inj _).trans ((List.append_right_inj _).trans ?_)
  exact (List.append_right_inj _).trans keyHint_eq_iff

end Guide

/-! ## The files -/

def filesBefore (w : Workflow) (h : Hierarchy) : Table Text :=
  [(mainName, mainModule w h), (toolsName, toolsModule (Tools.catalogue w.agents)),
   (requirementsName, requirementsFile (requirements w.agents w.deployment.memoryBank))]

def filesBehind (options : GenerateOptions) (w : Workflow) : Table Text :=
  [(dockerfileName, dockerfile), (ignoreName, ignoreFile)]
    ++ (if w.deployment.hasProject then
          [(buildSpecName, buildSpec w.deployment), (deployScriptName, deployScript w.deployment)]
        else [])
    ++ (if options.environmentExample then [(environmentName, environmentExample w)] else [])

/-- No file but the guide is written with the reference. -/
theorem files_withCredential (options : GenerateOptions) (w : Workflow) (h : Hierarchy)
    (ref : Text) : files options (w.withCredential ref) h
      = filesBefore w h ++ (guideName, guide (w.withCredential ref) h) :: filesBehind options w :=
  rfl

theorem sameButGuide_append (before behind : Table Text) (t u : Text) :
    SameButGuide (before ++ (guideName, t) :: behind) (before ++ (guideName, u) :: behind) where
  names := by simp
  contents name hn := by
    have apart : (name == guideName) = false := beq_false_of_ne hn
    simp only [Table.get?, List.lookup_append, List.lookup_cons, apart]

/-- What comes of two workflows that differ in the reference to their credentials: the same error,
or files that are the same but for the guide, which is another one if and only if the key file has
another name. -/
inductive Confined (ref other : Text) :
    Except HierarchyError (Table Text) → Except HierarchyError (Table Text) → Prop
  | refused (reason : HierarchyError) : Confined ref other (.error reason) (.error reason)
  | made {files files' : Table Text} : SameButGuide files files' →
      (files = files' ↔ keyFile? ref = keyFile? other) → Confined ref other (.ok files) (.ok files')

theorem Confined.eq {ref other : Text} {result result' : Except HierarchyError (Table Text)}
    (h : Confined ref other result result') (named : keyFile? ref = keyFile? other) :
    result = result' := by
  cases h with
  | refused => rfl
  | made _ same => rw [same.mpr named]

/-- Two references to credentials lead to the same outcome, apart from the guide. -/
theorem confined_generate (options : GenerateOptions) (w : Workflow) (ref other : Text) :
    Confined ref other ((w.withCredential ref).generate options)
      ((w.withCredential other).generate options) := by
  have structured : ∀ ref, (w.withCredential ref).generate options
      = w.hierarchy.map (files options (w.withCredential ref)) := fun _ => rfl
  rw [structured, structured]
  cases w.hierarchy with
  | error reason => exact .refused reason
  | ok h =>
    refine .made ?_ ?_
    · rw [files_withCredential, files_withCredential]
      exact sameButGuide_append _ _ _ _
    · rw [files_withCredential, files_withCredential, List.append_right_inj, List.cons.injEq,
        Prod.mk.injEq, guide_eq_iff]
      exact (and_iff_left rfl).trans (and_iff_right rfl)

/-- Key material in a document does not count: alike documents are read alike. The reference that is
read counts in the guide alone, by the name of the key file, in which there is no slash. -/
theorem credentials_confined {document other : Json}
    (alike : Document.AlikeObject Document.AlikeWorkflow document other)
    (options : GenerateOptions) (w : Workflow) (ref ref' : Text) :
    Workflow.ofJson document = Workflow.ofJson other ∧
      Confined ref ref' ((w.withCredential ref).generate options)
        ((w.withCredential ref').generate options) ∧
      ∀ name ∈ keyFile? ref, ('/' : CodePoint) ∉ name := by
  refine ⟨Document.ofJson_of_alike alike, confined_generate options w ref ref', ?_⟩
  intro name named
  rw [keyFile?, Option.mem_def, Option.ite_none_left_eq_some] at named
  obtain ⟨-, ⟨⟩⟩ := named
  exact slash_not_mem_fileName ref.trim

/-- A document in each of whose objects the same fields stand in front. -/
def documentWith (extra : Json.Fields) : Json :=
  let object (own : Json.Fields) : Json := .object (extra ++ own)
  let parameter := object [("name", .text "word")]
  let tool := object [("name", .text "look up"), ("parameters", .array [parameter])]
  let agent := object [("name", .text "writer"), ("tools", .array [tool])]
  object [("agents", .array [agent]),
    ("deploymentConfig", object [("credentialRef", .text "keys/sa.json")])]

theorem alike_documentWith (value : Json) :
    Document.AlikeObject Document.AlikeWorkflow (documentWith [])
      (documentWith [("serviceAccountKeyJson", value)]) := by
  have empty : ∀ names, Document.AgreeOn names [] [] := fun _ _ _ => rfl
  refine .object ⟨?workflow, .some (.array (.cons (.object ⟨?agent, .some (.array (.cons (.object
    ⟨?tool, .some (.array (.cons (.object ?parameter) .nil))⟩) .nil))⟩) .nil)), ?settings⟩
  case workflow =>
    refine (((empty _).cons_unread ?_ _ _).cons_unread ?_ _ _).cons_right ?_ _ <;> decide +kernel
  case agent =>
    refine (((empty _).cons_unread ?_ _ _).cons _).cons_right ?_ _ <;> decide +kernel
  case tool =>
    refine (((empty _).cons_unread ?_ _ _).cons _).cons_right ?_ _ <;> decide +kernel
  case parameter =>
    refine ((empty _).cons _).cons_right ?_ _
    decide +kernel
  case settings =>
    have own : Document.AgreeOn Document.deploymentNames [("credentialRef", .text "keys/sa.json")]
        [("serviceAccountKeyJson", value), ("credentialRef", .text "keys/sa.json")] := by
      refine ((empty _).cons _).cons_right ?_ _
      decide +kernel
    exact List.forall_mem_cons.mpr ⟨.some (.object own), List.forall_mem_singleton.mpr .none⟩

/-- Key material at every depth of a document, and a key file that is moved. -/
theorem moved_key_file_confined :
    Document.AlikeObject Document.AlikeWorkflow (documentWith [])
        (documentWith [("serviceAccountKeyJson", .text "secret")]) ∧
      Workflow.ofJson (documentWith [])
        = Workflow.ofJson (documentWith [("serviceAccountKeyJson", .text "secret")]) ∧
      keyFile? "keys/sa.json" = keyFile? " /home/me/sa.json" ∧
      (({} : Workflow).withCredential "keys/sa.json").generate {}
        = (({} : Workflow).withCredential " /home/me/sa.json").generate {} := by
  have alike := alike_documentWith (.text "secret")
  have named : keyFile? "keys/sa.json" = keyFile? " /home/me/sa.json" := by decide +kernel
  obtain ⟨read, confined, -⟩ :=
    credentials_confined alike {} {} "keys/sa.json" " /home/me/sa.json"
  exact ⟨alike, read, named, confined.eq named⟩

/-- The last parts of two references can be the same while the names of the key files differ: what
ends in a slash and a blank is trimmed down to the part in front of the slash. -/
theorem padded_names_differ :
    Text.isBlank "x/ " = false ∧ Text.isBlank "y/ " = false ∧ fileName "x/ " = fileName "y/ " ∧
      (({} : Workflow).withCredential "x/ ").generate {}
        ≠ (({} : Workflow).withCredential "y/ ").generate {} := by
  refine ⟨by decide, by decide, by decide, ?_⟩
  intro same
  have confined := confined_generate {} {} "x/ " "y/ "
  rw [same] at confined
  cases confined with
  | made _ named => exact absurd (named.mp rfl) (by decide)

end Project

end AgentWorkflow
