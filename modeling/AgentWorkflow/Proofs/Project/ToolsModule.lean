import AgentWorkflow.Project.ToolsModule
import AgentWorkflow.Proofs.Project.Words
import AgentWorkflow.Proofs.Workflow.Rewording

/-!
# The tools modules of twin workflows

Two workflows that differ in wording alone have tools modules that are twins: the classes of inputs
have the same fields, and the functions differ in their docstrings at most.
-/

namespace AgentWorkflow

namespace Project

open Source
open Naming (IsWord)

-- the fixed texts are scanned point by point
set_option maxRecDepth 4000

variable {s : List CodePoint}

/-! ## The class of inputs -/

theorem twins_fieldType (p : Parameter) :
    Twins (Tools.annotation p) (Tools.annotation p) s s := by
  unfold Tools.annotation
  split
  · cases p.type <;> exact twins_fixed (by decide)
  · cases p.type <;> exact twins_fixed (by decide)

/-- The arguments that declare a field, up to the bracket behind them. -/
theorem twins_fieldArguments {f g : SchemaField} (h : f.Reworded g) :
    Twins (Text.join ", " (fieldArguments f) ++ (")" ++ "\n"))
      (Text.join ", " (fieldArguments g) ++ (")" ++ "\n")) (('(' : CodePoint) :: s) s := by
  have default : ∀ {s}, Twins (if g.parameter.required then ("..." : Text) else "None")
      (if g.parameter.required then ("..." : Text) else "None") s s := by
    intro s
    split <;> exact twins_fixed (by decide)
  have described : Twins
      (", " ++ ("description=" ++ (literal f.parameter.description ++ (")" ++ "\n"))))
      (", " ++ ("description=" ++ (literal g.parameter.description ++ (")" ++ "\n"))))
      (('(' : CodePoint) :: s) s :=
    (twins_fixed (by decide)).append ((twins_fixed (by decide)).append
      (twins_literal_append _ _ rfl rfl (twins_closes (by decide))))
  unfold fieldArguments
  rw [h.alias?, h.parameter.required]
  cases g.alias? with
  | none =>
    simpa [Text.join, List.intercalate_cons_cons] using default.append described
  | some wanted =>
    have aliased : Twins
        (", " ++ ("alias=" ++ (literal wanted
          ++ (", " ++ ("description=" ++ (literal f.parameter.description ++ (")" ++ "\n")))))))
        (", " ++ ("alias=" ++ (literal wanted
          ++ (", " ++ ("description=" ++ (literal g.parameter.description ++ (")" ++ "\n")))))))
        (('(' : CodePoint) :: s) s :=
      (twins_fixed (by decide)).append ((twins_fixed (by decide)).append
        (twins_literal_append wanted wanted rfl rfl described))
    simpa [Text.join, List.intercalate_cons_cons] using default.append aliased

theorem twins_fieldLine {f g : SchemaField} (h : f.Reworded g) (hw : IsWord f.name) :
    Twins (fieldLine f ++ "\n") (fieldLine g ++ "\n") s s := by
  have sameAnnotation : Tools.annotation f.parameter = Tools.annotation g.parameter := by
    rw [Tools.annotation, Tools.annotation, h.parameter.required, h.parameter.type]
  simp only [fieldLine, line, List.append_assoc, ← h.name, sameAnnotation]
  exact (twins_indent 1).append ((twins_word hw).append ((twins_fixed (by decide)).append
    ((twins_fieldType g.parameter).append ((twins_opens (by decide)).append
      (twins_fieldArguments h)))))

/-- Related lists of fields, the first of which are words, have lines that are twins. -/
theorem twins_fieldLines {fs gs : List SchemaField} (h : List.Forall₂ SchemaField.Reworded fs gs)
    (hw : ∀ f ∈ fs, IsWord f.name) :
    Twins (Text.unlines (fs.map fieldLine)) (Text.unlines (gs.map fieldLine)) s s := by
  induction h with
  | nil => exact .nil
  | cons hfg _ ih =>
    exact (twins_fieldLine hfg (hw _ List.mem_cons_self)).lines_cons
      (ih fun f hf => hw f (List.mem_cons_of_mem _ hf))

theorem twins_schemaClass {d e : ToolDefinition} (h : d.Reworded e) (hw : IsWord d.schema) :
    Twins (Text.unlines (schemaClass d (Tools.schemaFields d.tool)))
      (Text.unlines (schemaClass e (Tools.schemaFields e.tool))) s s := by
  have header : Twins (Text.unlines ["class " ++ d.schema ++ "(BaseModel):"])
      (Text.unlines ["class " ++ e.schema ++ "(BaseModel):"]) s s := by
    rw [← h.schema]
    exact .lines_singleton (.line (((twins_fixed (by decide)).append (twins_word hw)).append
      (twins_fixed (by decide))))
  exact (header.lines_then (twins_docstring 1 (by simp) (by simp))).lines_then
    (twins_fieldLines (Tools.schemaFields_reworded h.tool) fun _ => Tools.isWord_field)

/-! ## The function -/

theorem documentation_ne_nil (t : Tool) (fields : List SchemaField) : documentation t fields ≠ [] := by
  have described : descriptionLines t ≠ [] := by
    unfold descriptionLines
    split
    · simp
    · exact Text.splitOn_ne_nil _ _
  simp [documentation, described]

theorem escaped_of_isWordPoint {c : CodePoint} (h : Naming.isWordPoint c) : c.escaped = [c] := by
  have apart : ∀ d : CodePoint, Naming.isWordPoint d = false → c ≠ d := by
    rintro d hd rfl
    simp [hd] at h
  have graphic : 0x20 ≤ c.val ∧ c.val ≠ 0x7F := by
    simp only [Naming.isWordPoint, CodePoint.isAlnum, CodePoint.isLetter, CodePoint.isLower,
      CodePoint.isUpper, CodePoint.isDigit, Bool.or_eq_true, Bool.and_eq_true, decide_eq_true_eq] at h
    rcases h with h | rfl
    · omega
    · decide
  simp [CodePoint.escaped, apart '\\' (by decide), apart '"' (by decide), apart '\n' (by decide),
    apart '\r' (by decide), apart '\t' (by decide), graphic.2, Nat.not_lt.mpr graphic.1]

theorem escape_append (t u : Text) : escape (t ++ u) = escape t ++ escape u := List.flatMap_append

/-- A name is not changed by escaping. -/
theorem escape_of_isWord {t : Text} (h : IsWord t) : escape t = t := by
  rw [escape, List.flatMap_congr (g := fun c => [c]) fun c hc => escaped_of_isWordPoint (h c hc)]
  exact List.flatMap_singleton' t

/-- The line that logs a call quotes the name of the function, which is a literal of it. -/
theorem twins_logLine {f : Text} (h : IsWord f) :
    Twins (line 1 ("logger.info(\"Executing tool %s with inputs: %s\", \"" ++ f
        ++ "\", inputs.model_dump())") ++ "\n")
      (line 1 ("logger.info(\"Executing tool %s with inputs: %s\", \"" ++ f
        ++ "\", inputs.model_dump())") ++ "\n") s s := by
  have parts : ("logger.info(\"Executing tool %s with inputs: %s\", \"" : Text) ++ f
        ++ "\", inputs.model_dump())"
      = "logger.info(\"Executing tool %s with inputs: %s\", " ++ literal f
        ++ ", inputs.model_dump())" := by
    rw [literal, escape_of_isWord h]
    simp [Text.ofString]
  rw [parts]
  simp only [line, List.append_assoc]
  exact (twins_indent 1).append ((twins_opens (c := '(') (by decide)).append
    (twins_literal_append f f rfl rfl (twins_closes (by decide))))

/-- The line that returns is a literal that holds the name of the function, and a call. -/
theorem twins_returnLine {f : Text} (h : IsWord f) :
    Twins (line 1 ("return \"Tool '" ++ f
        ++ "' executed successfully with inputs: \" + inputs.model_dump_json()") ++ "\n")
      (line 1 ("return \"Tool '" ++ f
        ++ "' executed successfully with inputs: \" + inputs.model_dump_json()") ++ "\n") s s := by
  have parts : ("return \"Tool '" : Text) ++ f
        ++ "' executed successfully with inputs: \" + inputs.model_dump_json()"
      = "return " ++ literal ("Tool '" ++ f ++ "' executed successfully with inputs: ")
        ++ " + inputs.model_dump_json()" := by
    have before : escape "Tool '" = "Tool '" := by decide
    have behind : escape "' executed successfully with inputs: "
        = "' executed successfully with inputs: " := by
      rw [Text.ofString_ofList]
      decide
    rw [literal, escape_append, escape_append, escape_of_isWord h, before, behind]
    simp [Text.ofString]
  rw [parts]
  simp only [line, List.append_assoc]
  exact (twins_indent 1).append ((twins_fixed (by decide)).append
    (twins_literal_append _ _ rfl rfl (twins_fixed (by decide))))

theorem twins_stub {d e : ToolDefinition} (h : d.Reworded e) (hf : IsWord d.function)
    (hs : IsWord d.schema) (fields fields' : List SchemaField) :
    Twins (Text.unlines (stub d fields)) (Text.unlines (stub e fields')) s s := by
  have header : Twins (Text.unlines ["def " ++ d.function ++ "(inputs: " ++ d.schema ++ ") -> str:"])
      (Text.unlines ["def " ++ e.function ++ "(inputs: " ++ e.schema ++ ") -> str:"]) s s := by
    rw [← h.function, ← h.schema]
    exact .lines_singleton (.line (((((twins_fixed (by decide)).append (twins_word hf)).append
      (twins_opens (c := '(') (by decide))).append (twins_word hs)).append
      (twins_closes (by decide))))
  refine (header.lines_then
    (twins_docstring 1 (documentation_ne_nil _ _) (documentation_ne_nil _ _))).lines_then ?_
  rw [← h.function]
  refine .lines_cons (twins_fixed ?_)
    (.lines_cons (twins_logLine hf) (.lines_singleton (twins_returnLine hf)))
  rw [Text.ofString_ofList]
  decide

/-! ## The module -/

theorem twins_toolsHeader : Twins (Text.unlines toolsHeader) (Text.unlines toolsHeader) s s := by
  refine twins_fixed ?_
  simp only [toolsHeader, fixed, List.map]
  repeat rw [Text.ofString_ofList]
  decide

theorem twins_definitions {ds es : List ToolDefinition}
    (h : List.Forall₂ (fun d e => d.Reworded e ∧ IsWord d.function ∧ IsWord d.schema) ds es) :
    Twins (Text.unlines (ds.flatMap fun d => [[], []] ++ toolLines d))
      (Text.unlines (es.flatMap fun e => [[], []] ++ toolLines e)) s s := by
  refine .lines_flatMap h fun d e hde => .lines_then (twins_fixed (by decide)) ?_
  obtain ⟨same, hf, hs⟩ := hde
  exact ((twins_schemaClass same hs).lines_then (twins_fixed (by decide))).lines_then
    (twins_stub same hf hs _ _)

theorem twins_allTools {ds es : List ToolDefinition}
    (h : List.Forall₂ (fun d e => d.Reworded e ∧ IsWord d.function ∧ IsWord d.schema) ds es) :
    Twins (Text.unlines (allTools ds)) (Text.unlines (allTools es)) s s := by
  refine .lines_append (.lines_append (twins_opens (c := '[') (by decide)) (.lines_map h ?_))
    (twins_closes (by decide))
  rintro d e ⟨same, hf, -⟩
  rw [← same.function]
  exact .line ((twins_indent 1).append ((twins_word hf).append (twins_fixed (by decide))))

/-- The functions and the classes of a catalogue are named by words. -/
theorem catalogue_reworded_words {as bs : List Agent} (h : List.Forall₂ Agent.Reworded as bs) :
    List.Forall₂ (fun d e => d.Reworded e ∧ IsWord d.function ∧ IsWord d.schema)
      (Tools.catalogue as) (Tools.catalogue bs) := by
  refine ((List.forall₂_and_left _ _).mpr ⟨?_, Tools.catalogue_reworded h⟩).imp
    fun _ _ ⟨words, same⟩ => ⟨same, words⟩
  exact fun d hd => ⟨Tools.isWord_function hd, Tools.isWord_schema hd⟩

/-- Workflows that differ in wording alone have tools modules that are twins. -/
theorem twins_toolsModule {as bs : List Agent} (h : List.Forall₂ Agent.Reworded as bs) :
    Twins (toolsModule (Tools.catalogue as)) (toolsModule (Tools.catalogue bs)) [] [] := by
  have words := catalogue_reworded_words h
  unfold toolsModule toolsLines
  cases has : Tools.catalogue as with
  | nil =>
    rw [has, List.forall₂_nil_left_iff] at words
    rw [words]
    refine twins_fixed (t := Text.unlines emptyToolsModule) ?_
    simp only [emptyToolsModule, fixed, List.map]
    repeat rw [Text.ofString_ofList]
    decide
  | cons d ds =>
    obtain ⟨e, es, -, -, hbs⟩ := List.forall₂_cons_left_iff.mp (has ▸ words)
    rw [has, hbs] at words
    rw [hbs]
    exact ((twins_toolsHeader.lines_then (twins_definitions words)).lines_then
      (twins_fixed (by decide))).lines_then (twins_allTools words)

end Project

end AgentWorkflow
