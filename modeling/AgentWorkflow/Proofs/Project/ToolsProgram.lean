import AgentWorkflow.Proofs.Project.Factories
import AgentWorkflow.Proofs.Project.ToolsModule
import AgentWorkflow.Proofs.Source.Blocks
import AgentWorkflow.Proofs.Tools.Fields

/-!
# What the tools module says

The tools module defines a class and a function for every tool of the catalogue, and lists the
functions. All of it can be read back: the fields of a class with their types and what they are
described by, and the parameter and the docstring of a function.

Results:
1. `class?_classBlock`, `function?_functionBlock`: a class and a function as they are read.
2. `shows_toolsModule`: the blocks of the module.
3. `tools?_toolsModule`: what a reader finds in it.
-/

namespace AgentWorkflow

namespace Project

open Source
open Naming (IsWord)

/-! ## Reading -/

/-- What a program tells of a field: its type, whether it may be `None`, and the arguments that
declare it. -/
structure FieldReading where
  name : Text
  type : Text
  optional : Bool
  default : Text
  alias? : Option Text
  description : Text
deriving DecidableEq

/-- What a program tells of a class: the classes it builds on, its docstring, its fields. -/
structure ClassReading where
  name : Text
  bases : List Text
  documentation : Text
  fields : List FieldReading
deriving DecidableEq

/-- What a program tells of a function: its parameters with their types, its docstring, and the
statements behind it. -/
structure FunctionReading where
  name : Text
  parameters : List (Text × Text)
  documentation : Text
  statements : List (List Leaf)

/-- What a tools module tells: the names it binds, its functions and classes, and the functions that
it lists as tools. -/
structure ToolsReading where
  bound : List Text
  functions : List FunctionReading
  classes : List ClassReading
  listed : List Text

/-- The type of a field, and whether it is an optional one. -/
def type? (run : List Leaf) : Option (Text × Bool) :=
  match takePoints isNamePoint run with
  | (name, []) => if name.isEmpty then none else some (name, false)
  | (name, [.group c inner]) =>
    if name = "Optional" && c = '[' then (name? inner).map fun name => (name, true) else none
  | _ => none

/-- The text of a keyword argument that may be left out. -/
def given? (keywords : Table (List Leaf)) (name : Text) : Option (Option Text) :=
  match Table.get? keywords name with
  | none => some none
  | some run => (text? run).map some

def field? (statement : List Leaf) : Option FieldReading := do
  let declared ← assignment? statement
  let (type, optional) ← type? declared.type
  let (constructor, arguments) ← call? declared.value
  match arguments with
  | default :: others =>
    let keywords ← keywords? others
    if constructor = "Field" then
      return {
        name := declared.name
        type
        optional
        default := ← name? default
        alias? := ← given? keywords "alias"
        description := ← text? (← Table.get? keywords "description") }
    else none
  | [] => none

/-- The name and the type of a parameter. -/
def parameter? (run : List Leaf) : Option (Text × Text) := do
  let (name, type) ← sides? run
  return (← name? name, ← name? type)

/-- The docstring of a block, and the statements behind it. -/
def documented? (b : Block) : Option (Text × List (List Leaf)) :=
  match Definition.statements? ⟨[], b.body⟩ with
  | some (doc :: statements) => (text? doc).map fun text => (text, statements)
  | _ => none

def class? (b : Block) : Option ClassReading := do
  let (name, bases) ← declared? "class" b.head
  let (documentation, statements) ← documented? b
  return {
    name
    bases := ← (items bases).mapM name?
    documentation
    fields := ← statements.mapM field? }

def function? (b : Block) : Option FunctionReading := do
  let (name, parameters) ← declared? "def" b.head
  let (documentation, statements) ← documented? b
  return { name, parameters := ← (items parameters).mapM parameter?, documentation, statements }

def isClass (b : Block) : Bool := (named? "class" b.head).isSome

def isFunction (b : Block) : Bool := (Line.defined? ⟨0, b.head⟩).isSome

def assigned (name : Text) (bs : List Block) : List (List Leaf) :=
  ((bs.filterMap fun b => assignment? b.head).filter (·.name = name)).map (·.value)

/-- What the blocks of a tools module tell. All functions and classes have to be readable, and the
list of the tools has to be given once. -/
def toolsOf? (bs : List Block) : Option ToolsReading :=
  match assigned "ALL_TOOLS" bs with
  | [tools] => do
    return {
      bound := bs.flatMap (·.bound)
      functions := ← (bs.filter isFunction).mapM function?
      classes := ← (bs.filter isClass).mapM class?
      listed := ← (← list? tools).mapM name? }
  | _ => none

def tools? (program : Text) : Option ToolsReading :=
  (read? program).bind fun leaves => toolsOf? (blocks (linesOf leaves))

/-! ## Fields -/

def typeRun (p : Parameter) : List Leaf :=
  if p.required then (Tools.typeName p.type).map .point
  else ("Optional" : Text).map .point ++ [.group '[' ((Tools.typeName p.type).map .point)]

def defaultText (p : Parameter) : Text := if p.required then "..." else "None"

def fieldKeywords (f : SchemaField) : List Argument :=
  f.alias?.toList.map (fun wanted => ⟨"alias", literal wanted, [.text wanted]⟩)
    ++ [⟨"description", literal f.parameter.description, [.text f.parameter.description]⟩]

/-- The arguments that declare a field, with their leaves. -/
def fieldEntries (f : SchemaField) : List (Text × List Leaf) :=
  (defaultText f.parameter, (defaultText f.parameter).map .point)
    :: (fieldKeywords f).map fun a => (a.source, keywordRun a.entry)

def fieldCall (f : SchemaField) : List Leaf :=
  ("Field" : Text).map .point ++ [.group '(' (Source.inline ((fieldEntries f).map (·.2)))]

/-- The leaves of the line that declares a field. -/
def fieldRun (f : SchemaField) : List Leaf := typedRun f.name (typeRun f.parameter) (fieldCall f)

def fieldReading (f : SchemaField) : FieldReading where
  name := f.name
  type := Tools.typeName f.parameter.type
  optional := !f.parameter.required
  default := defaultText f.parameter
  alias? := f.alias?
  description := f.parameter.description

section Field

variable {f : SchemaField}

theorem isKeyName_typeName (type : ParameterType) : isKeyName (Tools.typeName type) := by
  cases type <;> decide

theorem sound_fieldKeywords (f : SchemaField) : ∀ a ∈ fieldKeywords f, a.Sound := by
  refine List.forall_mem_append.mpr ⟨fun a ha => ?_, List.forall_mem_singleton.mpr
    ⟨rfl, expresses_literal _⟩⟩
  obtain ⟨wanted, -, rfl⟩ := List.mem_map.mp ha
  exact ⟨rfl, expresses_literal wanted⟩

theorem expresses_defaultText (p : Parameter) :
    Expresses (defaultText p) ((defaultText p).map .point) := by
  unfold defaultText
  split
  · exact expresses_points (by decide) (by decide)
  · exact expresses_points (by decide) (by decide)

theorem awaits_fieldEntries (f : SchemaField) : ∀ e ∈ fieldEntries f, Awaits e.1 e.2 :=
  List.forall_mem_cons.mpr ⟨(expresses_defaultText f.parameter).awaits,
    awaits_of_sound (sound_fieldKeywords f)⟩

theorem fieldArguments_eq (f : SchemaField) : fieldArguments f = (fieldEntries f).map (·.1) := by
  have wanted : ("alias=" : Text) = "alias" ++ "=" := rfl
  have described : ("description=" : Text) = "description" ++ "=" := rfl
  simp [fieldArguments, fieldEntries, fieldKeywords, defaultText, Argument.source, wanted, described]

theorem expresses_fieldCall (f : SchemaField) :
    Expresses ("Field" ++ ("(" ++ Text.join ", " (fieldArguments f) ++ ")")) (fieldCall f) := by
  rw [fieldArguments_eq]
  exact expresses_call (by decide) (by decide) (awaits_inline (awaits_fieldEntries f))

theorem reads_type (p : Parameter) : Reads (Tools.annotation p) (typeRun p) := by
  obtain ⟨-, word⟩ := isKeyName_iff.mp (isKeyName_typeName p.type)
  have name := reads_points fun c hc => isBare_of_isWordPoint (word c hc)
  unfold Tools.annotation typeRun
  split
  · exact name
  · have opened : ("Optional[" : Text) = "Optional" ++ "[" := rfl
    have optional : Reads "Optional" (("Optional" : Text).map .point) := reads_points (by decide)
    simpa [opened] using optional.append (reads_brackets name.awaits)

theorem item_typeRun (p : Parameter) : Item (typeRun p) := by
  unfold typeRun
  split
  · cases p.type <;> exact item_points (by decide) (by decide)
  · exact (item_points (t := "Optional") (by decide) (by decide)).append (item_group _ _)

theorem isSign_of_mem_typeRun (p : Parameter) : ∀ l ∈ typeRun p, l.isSign '=' = false := by
  unfold typeRun
  split
  · exact apart_points (equals_not_mem_of_isKeyName (isKeyName_typeName p.type))
  · exact List.forall_mem_append.mpr
      ⟨apart_points (by decide), List.forall_mem_singleton.mpr rfl⟩

theorem type?_typeRun (p : Parameter) :
    type? (typeRun p) = some (Tools.typeName p.type, !p.required) := by
  unfold typeRun
  cases p.required <;> cases p.type <;> rfl

theorem isLineEnd_of_mem_typeRun (p : Parameter) : ∀ l ∈ typeRun p, l.isLineEnd = false := by
  unfold typeRun
  split
  · exact level_points _
  · exact List.forall_mem_append.mpr ⟨level_points _, List.forall_mem_singleton.mpr rfl⟩

/-- A field on a line of its own. -/
theorem lays_field (hn : isKeyName f.name) : Lays (fieldLine f ++ "\n") [⟨4, fieldRun f⟩] := by
  have opened : (" = Field(" : Text) = " = " ++ ("Field" ++ "(") := rfl
  have lays := lays_typed 1 hn (reads_type f.parameter) (isLineEnd_of_mem_typeRun f.parameter)
    (expresses_fieldCall f)
  simpa [fieldLine, opened, fieldRun] using lays

theorem keywords?_fieldKeywords (f : SchemaField) :
    keywords? (argumentRuns (fieldKeywords f)) = some (argumentTable (fieldKeywords f)) := by
  refine keywords?_argumentRuns (sound_fieldKeywords f) ?_
  unfold fieldKeywords
  cases f.alias? <;> simp only [Option.toList, List.map, List.nil_append, List.cons_append] <;> decide

theorem field?_fieldRun (hn : isKeyName f.name) : field? (fieldRun f) = some (fieldReading f) := by
  have items : items (Source.inline ((fieldEntries f).map (·.2)))
      = (defaultText f.parameter).map .point :: argumentRuns (fieldKeywords f) := by
    have runs : (fieldEntries f).map (·.2)
        = (defaultText f.parameter).map .point :: argumentRuns (fieldKeywords f) := by
      simp [fieldEntries, argumentRuns, argumentTable]
    rw [runs]
    exact items_inline (List.forall_mem_cons.mpr ⟨(expresses_defaultText f.parameter).toItem,
      item_of_mem_argumentRuns (sound_fieldKeywords f)⟩)
  have call : call? (fieldCall f) = some (("Field" : Text),
      (defaultText f.parameter).map .point :: argumentRuns (fieldKeywords f)) := by
    rw [fieldCall, call?_points (by decide) (by decide), items]
  have default : name? ((defaultText f.parameter).map .point) = some (defaultText f.parameter) := by
    unfold defaultText
    split <;> rfl
  have wanted : given? (argumentTable (fieldKeywords f)) "alias" = some f.alias? := by
    unfold fieldKeywords
    cases f.alias? with
    | none => rfl
    | some wanted =>
      have found : Table.get? (argumentTable ((some wanted).toList.map (fun wanted =>
          ⟨"alias", literal wanted, [.text wanted]⟩) ++ [⟨"description",
            literal f.parameter.description, [.text f.parameter.description]⟩])) "alias"
          = some [.text wanted] := rfl
      simp only [given?, found, text?_text, Option.map_some]
  have described : Table.get? (argumentTable (fieldKeywords f)) "description"
      = some [.text f.parameter.description] := by
    unfold fieldKeywords
    cases f.alias? <;> rfl
  have declared : assignment? (fieldRun f)
      = some ⟨f.name, typeRun f.parameter, fieldCall f⟩ :=
    assignment?_typedRun hn (expresses_fieldCall f).toValue (item_typeRun _)
      (isSign_of_mem_typeRun _)
  simp only [field?, declared, type?_typeRun, call, keywords?_fieldKeywords, default, wanted,
    described, text?_text, Option.bind_eq_bind, Option.bind_some, if_true]
  rfl

end Field

/-! ## Classes and functions -/

/-- The leaves of the line that logs a call. -/
def logRun (function : Text) : List Leaf :=
  ("logger.info" : Text).map .point
    ++ [.group '(' (Source.inline [[.text "Executing tool %s with inputs: %s"], [.text function],
      ("inputs.model_dump" : Text).map .point ++ [.group '(' []]])]

/-- The leaves of the line that answers a call. -/
def answerRun (function : Text) : List Leaf :=
  ("return " : Text).map .point
    ++ .text (("Tool '" : Text) ++ function ++ "' executed successfully with inputs: ")
    :: ((" + inputs.model_dump_json" : Text).map .point ++ [.group '(' []])

/-- The docstring of the class of a tool's inputs. -/
def schemaSummary (t : Tool) : Text := ("Input schema for the '" : Text) ++ t.name ++ "' tool."

def classBlock (d : ToolDefinition) : Block where
  head := headRun "class" d.schema (("BaseModel" : Text).map .point) []
  body := ⟨4, [.text (schemaSummary d.tool)]⟩
    :: (Tools.schemaFields d.tool).map fun f => ⟨4, fieldRun f⟩

def functionBlock (d : ToolDefinition) : Block where
  head := headRun "def" d.function (("inputs: " : Text).map .point ++ d.schema.map .point) " -> str"
  body := [⟨4, [.text (docText 1 (documentation d.tool (Tools.schemaFields d.tool)))]⟩,
    ⟨4, logRun d.function⟩, ⟨4, answerRun d.function⟩]

/-- What a program tells of the class of a tool's inputs. -/
def classReading (d : ToolDefinition) : ClassReading where
  name := d.schema
  bases := ["BaseModel"]
  documentation := schemaSummary d.tool
  fields := (Tools.schemaFields d.tool).map fieldReading

def functionReading (d : ToolDefinition) : FunctionReading where
  name := d.function
  parameters := [("inputs", d.schema)]
  documentation := docText 1 (documentation d.tool (Tools.schemaFields d.tool))
  statements := [logRun d.function, answerRun d.function]

section Definition

variable {d : ToolDefinition}

theorem isKeyName_of_isWord {name : Text} (h : IsWord name) (ne : name ≠ []) : isKeyName name :=
  isKeyName_iff.mpr ⟨ne, isWordPoint_of_isWord h⟩

theorem indentation_classBlock : ∀ l ∈ (classBlock d).body, l.indentation = 4 := by
  refine List.forall_mem_cons.mpr ⟨rfl, fun l hl => ?_⟩
  obtain ⟨f, -, rfl⟩ := List.mem_map.mp hl
  rfl

theorem indentation_functionBlock : ∀ l ∈ (functionBlock d).body, l.indentation = 4 := by
  simp only [functionBlock, List.forall_mem_cons]
  exact ⟨trivial, trivial, trivial, List.forall_mem_nil _⟩

theorem class?_classBlock (hs : isKeyName d.schema)
    (hf : ∀ f ∈ Tools.schemaFields d.tool, isKeyName f.name) :
    class? (classBlock d) = some (classReading d) := by
  have documented : documented? (classBlock d) = some (schemaSummary d.tool,
      (Tools.schemaFields d.tool).map fieldRun) := by
    rw [documented?, Definition.statements?_of_even indentation_classBlock]
    simp [classBlock, text?_text]
  have fields : ((Tools.schemaFields d.tool).map fieldRun).mapM field?
      = some ((Tools.schemaFields d.tool).map fieldReading) :=
    mapM_map fun f hf' => field?_fieldRun (hf f hf')
  have declared : declared? "class" (classBlock d).head
      = some (d.schema, ("BaseModel" : Text).map .point) :=
    declared?_headRun (by decide) hs
  have bases : (items (("BaseModel" : Text).map Leaf.point)).mapM name?
      = some [("BaseModel" : Text)] := rfl
  simp only [class?, declared, documented, bases, fields, Option.bind_eq_bind, Option.bind_some]
  rfl

example : (blocks (layout (Text.unlines ["class A(B):", "    \"\"\"C.\"\"\"",
      "    d: Optional[int] = Field(None, alias=\"e\", description=\"f\")"]))).filterMap class?
    = [⟨"A", ["B"], "C.", [⟨"d", "int", true, "None", some "e", "f"⟩]⟩] := by
  decide +kernel

theorem parameter?_inputs {schema : Text} (hs : isKeyName schema) :
    (items (("inputs: " : Text).map Leaf.point ++ schema.map .point)).mapM parameter?
      = some [(("inputs" : Text), schema)] := by
  obtain ⟨ne, word⟩ := isKeyName_iff.mp hs
  have name : ∀ c ∈ schema, isNamePoint c := fun c hc => isNamePoint_of_isWordPoint (word c hc)
  have type : Item (schema.map .point) := item_points ne fun c hc =>
    isItemPoint_of_isNamePoint (name c hc)
  have item : Item (("inputs: " : Text).map .point ++ schema.map .point) :=
    ⟨⟨.point 'i', _, rfl, rfl⟩, type.ends.append _,
      List.forall_mem_append.mpr ⟨by decide, type.apart⟩⟩
  have single := items_singleton item blank_nil
  rw [List.nil_append] at single
  have trimmed : trimRun (.point ' ' :: schema.map .point) = schema.map .point :=
    trimRun_append type.starts type.ends (blank_nil.cons rfl)
  have sides : sides? (("inputs: " : Text).map .point ++ schema.map Leaf.point)
      = some (("inputs" : Text).map .point, schema.map Leaf.point) := by
    have key : trimRun (("inputs" : Text).map .point) = ("inputs" : Text).map .point := rfl
    have front : (("inputs: " : Text).map Leaf.point ++ schema.map Leaf.point).takeWhile
        (!·.isSign ':') = ("inputs" : Text).map .point := rfl
    have back : (("inputs: " : Text).map Leaf.point ++ schema.map Leaf.point).dropWhile
        (!·.isSign ':') = .point ':' :: .point ' ' :: schema.map .point := rfl
    simp only [sides?, front, back, key, trimmed]
  have inputs : name? (("inputs" : Text).map .point) = some "inputs" := rfl
  have read : parameter? (("inputs: " : Text).map .point ++ schema.map Leaf.point)
      = some (("inputs" : Text), schema) := by
    simp only [parameter?, sides, inputs, name?_points ne name, Option.bind_eq_bind,
      Option.bind_some]
    rfl
  rw [single, List.mapM_cons, read]
  rfl

theorem function?_functionBlock (hn : isKeyName d.function) (hs : isKeyName d.schema) :
    function? (functionBlock d) = some (functionReading d) := by
  have documented : documented? (functionBlock d)
      = some (docText 1 (documentation d.tool (Tools.schemaFields d.tool)),
        [logRun d.function, answerRun d.function]) := by
    rw [documented?, Definition.statements?_of_even indentation_functionBlock]
    simp [functionBlock, text?_text]
  have declared : declared? "def" (functionBlock d).head
      = some (d.function, ("inputs: " : Text).map .point ++ d.schema.map .point) :=
    declared?_headRun (by decide) hn
  simp only [function?, declared, documented, parameter?_inputs hs, Option.bind_eq_bind,
    Option.bind_some]
  rfl

end Definition

/-! ## The lines of a tool -/

section Lines

variable {d : ToolDefinition}

theorem lays_fields {fields : List SchemaField} (h : ∀ f ∈ fields, isKeyName f.name) :
    Lays (Text.unlines (fields.map fieldLine)) (fields.map fun f => ⟨4, fieldRun f⟩) := by
  rw [List.map_eq_flatMap, List.map_eq_flatMap]
  refine lays_flatMap fun f hf => ?_
  simpa [Text.unlines] using lays_field (h f hf)

theorem shows_schemaClass (hs : isKeyName d.schema)
    (hf : ∀ f ∈ Tools.schemaFields d.tool, isKeyName f.name) :
    Shows blocks (Text.unlines (schemaClass d (Tools.schemaFields d.tool))) [classBlock d] := by
  have base : Reads "BaseModel" (("BaseModel" : Text).map .point) := reads_points (by decide)
  have opened : ("class " : Text) = "class" ++ " " := rfl
  have based : ("(BaseModel):" : Text) = "(" ++ "BaseModel" ++ ")" ++ ":" := rfl
  have head : Lays (Text.unlines [("class " : Text) ++ d.schema ++ "(BaseModel):"])
      [⟨0, (classBlock d).head⟩] := by
    have bare : ∀ c ∈ ([] : Text), isBare c := List.forall_mem_nil _
    have lays := lays_head (show isKeyName "class" by decide) hs base.awaits bare
    simpa [Text.unlines, opened, based, classBlock] using lays
  have whole := (head.unlines (lays_docstring 1 (List.cons_ne_nil (schemaSummary d.tool) []))).unlines
    (lays_fields hf)
  refine ⟨_, whole, ?_, ?_⟩
  · rintro l ⟨⟩
    rfl
  · have indented : ∀ l ∈ (classBlock d).body, 0 < l.indentation := fun l hl => by
      rw [indentation_classBlock l hl]
      decide
    exact blocks_block _ indented

/-- A call without arguments. -/
theorem reads_emptyCall {f : Text} (h : ∀ c ∈ f, isBare c) :
    Reads (f ++ "()") (f.map .point ++ [.group '(' []]) := by
  have brackets : ("()" : Text) = "(" ++ ([] : Text) ++ ")" := rfl
  rw [brackets]
  exact (reads_points h).append (reads_parentheses reads_nil.awaits)

theorem lays_logLine {f : Text} (hf : IsWord f) :
    Lays (line 1 (("logger.info(\"Executing tool %s with inputs: %s\", \"" : Text) ++ f
      ++ "\", inputs.model_dump())") ++ "\n") [⟨4, logRun f⟩] := by
  have parts : ("logger.info(\"Executing tool %s with inputs: %s\", \"" : Text) ++ f
        ++ "\", inputs.model_dump())"
      = "logger.info" ++ ("(" ++ Text.join ", " [literal "Executing tool %s with inputs: %s",
        literal f, "inputs.model_dump" ++ "()"] ++ ")") := by
    have format : escape "Executing tool %s with inputs: %s"
        = "Executing tool %s with inputs: %s" := by
      rw [Text.ofString_ofList]
      decide
    rw [literal, literal, format, escape_of_isWord hf]
    simp [Text.join, List.intercalate, Text.ofString]
  have entries : Awaits (Text.join ", " [literal "Executing tool %s with inputs: %s",
      literal f, "inputs.model_dump" ++ "()"])
      (Source.inline [[.text "Executing tool %s with inputs: %s"], [.text f],
        ("inputs.model_dump" : Text).map .point ++ [.group '(' []]]) := by
    refine @awaits_inline [(literal "Executing tool %s with inputs: %s", _), (literal f, _),
      ("inputs.model_dump" ++ "()", _)] ?_
    simp only [List.forall_mem_cons]
    exact ⟨awaits_literal _, awaits_literal f, (reads_emptyCall (by decide)).awaits,
      List.forall_mem_nil _⟩
  have call := expresses_call (f := "logger.info") (by decide) (by decide) entries
  rw [parts]
  exact lays_line 1 call.awaits call.starts call.ends call.level

theorem lays_answerLine {f : Text} (hf : IsWord f) :
    Lays (line 1 (("return \"Tool '" : Text) ++ f
      ++ "' executed successfully with inputs: \" + inputs.model_dump_json()") ++ "\n")
      [⟨4, answerRun f⟩] := by
  have parts : ("return \"Tool '" : Text) ++ f
        ++ "' executed successfully with inputs: \" + inputs.model_dump_json()"
      = "return " ++ (literal (("Tool '" : Text) ++ f ++ "' executed successfully with inputs: ")
        ++ (" + inputs.model_dump_json" ++ "()")) := by
    have before : escape "Tool '" = "Tool '" := by decide
    have behind : escape "' executed successfully with inputs: "
        = "' executed successfully with inputs: " := by
      rw [Text.ofString_ofList]
      decide
    rw [literal, escape_append, escape_append, escape_of_isWord hf, before, behind]
    simp [Text.ofString]
  have keyword : Reads "return " (("return " : Text).map .point) := reads_points (by decide)
  have dump : Reads (" + inputs.model_dump_json" ++ "()")
      ((" + inputs.model_dump_json" : Text).map .point ++ [.group '(' []]) :=
    reads_emptyCall (by decide)
  have reads := keyword.append ((awaits_literal
    (("Tool '" : Text) ++ f ++ "' executed successfully with inputs: ")).append dump rfl)
  have ends : Ends (answerRun f) := by
    refine ⟨("return " : Text).map .point
      ++ .text (("Tool '" : Text) ++ f ++ "' executed successfully with inputs: ")
      :: (" + inputs.model_dump_json" : Text).map .point, .group '(' [], ?_, rfl⟩
    simp [answerRun]
  have flat : ∀ l ∈ answerRun f, l.isLineEnd = false :=
    List.forall_mem_append.mpr ⟨level_points _, List.forall_mem_cons.mpr ⟨rfl,
      List.forall_mem_append.mpr ⟨level_points _, List.forall_mem_singleton.mpr rfl⟩⟩⟩
  rw [parts]
  exact lays_line 1 reads.awaits ⟨.point 'r', _, rfl, rfl⟩ ends flat

theorem shows_stub (hn : isKeyName d.function) (hw : IsWord d.function) (hs : isKeyName d.schema) :
    Shows blocks (Text.unlines (stub d (Tools.schemaFields d.tool))) [functionBlock d] := by
  have inputs : Reads ("inputs: " ++ d.schema)
      (("inputs: " : Text).map .point ++ d.schema.map .point) :=
    (reads_points (by decide)).append
      (reads_points fun c hc => isBare_of_isWordPoint ((isKeyName_iff.mp hs).2 c hc))
  have opened : ("def " : Text) = "def" ++ " " := rfl
  have given : ("(inputs: " : Text) = "(" ++ "inputs: " := rfl
  have closed : (") -> str:" : Text) = ")" ++ " -> str" ++ ":" := rfl
  have head : Lays (Text.unlines
      [("def " : Text) ++ d.function ++ "(inputs: " ++ d.schema ++ ") -> str:"])
      [⟨0, (functionBlock d).head⟩] := by
    have bare : ∀ c ∈ (" -> str" : Text), isBare c := by decide
    have lays := lays_head (show isKeyName "def" by decide) hn inputs.awaits bare
    simpa [Text.unlines, opened, given, closed, functionBlock] using lays
  -- a comment lays no line, so two statements are left behind the docstring
  have comment : Lays (line 1 "# TODO: Implement the actual logic for this tool." ++ "\n") [] := by
    refine lays_nil_of_allLines ?_
    rw [Text.ofString_ofList]
    decide +kernel
  have rest : Lays (Text.unlines
      [line 1 "# TODO: Implement the actual logic for this tool.",
        line 1 (("logger.info(\"Executing tool %s with inputs: %s\", \"" : Text) ++ d.function
          ++ "\", inputs.model_dump())"),
        line 1 (("return \"Tool '" : Text) ++ d.function
          ++ "' executed successfully with inputs: \" + inputs.model_dump_json()")])
      [⟨4, logRun d.function⟩, ⟨4, answerRun d.function⟩] := by
    simpa [Text.unlines] using comment.append ((lays_logLine hw).append (lays_answerLine hw))
  have whole := (head.unlines (lays_docstring 1
    (documentation_ne_nil d.tool (Tools.schemaFields d.tool)))).unlines rest
  refine ⟨_, whole, ?_, ?_⟩
  · rintro l ⟨⟩
    rfl
  · have indented : ∀ l ∈ (functionBlock d).body, 0 < l.indentation := fun l hl => by
      rw [indentation_functionBlock l hl]
      decide
    exact blocks_block _ indented

end Lines

/-! ## The module -/

/-- The functions and the classes of a list of tools are named as the program can name them. -/
structure Named (d : ToolDefinition) : Prop where
  word : IsWord d.function
  function : isKeyName d.function
  schema : isKeyName d.schema
  fields : ∀ f ∈ Tools.schemaFields d.tool, isKeyName f.name

theorem named_of_mem_catalogue {agents : List Agent} {d : ToolDefinition}
    (h : d ∈ Tools.catalogue agents) : Named d where
  word := Tools.isWord_function h
  function := isKeyName_of_isWord (Tools.isWord_function h) (Tools.function_ne_nil h)
  schema := isKeyName_of_isWord (Tools.isWord_schema h) (Tools.schema_ne_nil h)
  fields _ hf := isKeyName_of_isWord (Tools.isWord_field hf) (Tools.field_ne_nil hf)

def listBlock (ds : List ToolDefinition) : Block where
  head := assignmentRun "ALL_TOOLS" (namesRun 0 (ds.map (·.function)))
  body := []

/-- The blocks in front of the first tool, and those of a module without tools. -/
def headerBlocks : List Block := blocks (layout (Text.unlines toolsHeader))

def emptyBlocks : List Block := blocks (layout (Text.unlines emptyToolsModule))

def toolsBlocks (ds : List ToolDefinition) : List Block :=
  headerBlocks ++ (ds.flatMap fun d => [classBlock d, functionBlock d]) ++ [listBlock ds]

def headerNames : List Text := ["logging", "Optional", "BaseModel", "Field", "logger"]

/-- The header defines no function and no class, so the tools of the module are those below it. -/
theorem shows_toolsHeader : Shows blocks (Text.unlines toolsHeader) headerBlocks ∧
    (headerBlocks.all fun b => !isFunction b && !isClass b) ∧
    (assigned "ALL_TOOLS" headerBlocks).isEmpty ∧
    headerBlocks.flatMap (·.bound) = headerNames := by
  have facts : isLaid (Text.unlines toolsHeader) ∧
      (layout (Text.unlines toolsHeader)).head?.all (·.indentation = 0) ∧
      (headerBlocks.all fun b => !isFunction b && !isClass b) ∧
      (assigned "ALL_TOOLS" headerBlocks).isEmpty ∧
      headerBlocks.flatMap (·.bound) = headerNames := by
    simp only [headerBlocks, toolsHeader, fixed, List.map]
    repeat rw [Text.ofString_ofList]
    decide +kernel
  exact ⟨shows_of_isLaid facts.1 facts.2.1, facts.2.2⟩

theorem shows_emptyToolsModule : Shows blocks (Text.unlines emptyToolsModule) emptyBlocks ∧
    (emptyBlocks.all fun b => !isFunction b && !isClass b) ∧
    ((assigned "ALL_TOOLS" emptyBlocks).map fun run => (list? run).bind (·.mapM name?))
      = [some []] ∧
    emptyBlocks.flatMap (·.bound) = [("ALL_TOOLS" : Text)] := by
  have facts : isLaid (Text.unlines emptyToolsModule) ∧
      (layout (Text.unlines emptyToolsModule)).head?.all (·.indentation = 0) ∧
      (emptyBlocks.all fun b => !isFunction b && !isClass b) ∧
      ((assigned "ALL_TOOLS" emptyBlocks).map fun run => (list? run).bind (·.mapM name?))
        = [some []] ∧
      emptyBlocks.flatMap (·.bound) = [("ALL_TOOLS" : Text)] := by
    simp only [emptyBlocks, emptyToolsModule, fixed, List.map]
    repeat rw [Text.ofString_ofList]
    decide +kernel
  exact ⟨shows_of_isLaid facts.1 facts.2.1, facts.2.2⟩

/-- The two empty lines in front of a class or a function. -/
theorem shows_gap : Shows blocks (Text.unlines [[], []]) [] := by
  refine ⟨[], lays_nil_of_allLines (by decide), ?_, rfl⟩
  rintro l ⟨⟩

section Module

variable {ds : List ToolDefinition} (named : ∀ d ∈ ds, Named d)

include named

theorem shows_tools : Shows blocks (Text.unlines (ds.flatMap fun d => [[], []] ++ toolLines d))
    (ds.flatMap fun d => [classBlock d, functionBlock d]) := by
  refine shows_flatMap isPartwise_blocks fun d hd => ?_
  obtain ⟨word, function, schema, fields⟩ := named d hd
  have tool := ((shows_schemaClass schema fields).unlines isPartwise_blocks
    (shows_gap.before isPartwise_blocks (shows_stub function word schema)))
  have shape : [[], []] ++ toolLines d = [[], []] ++ (schemaClass d (Tools.schemaFields d.tool)
      ++ ([[], []] ++ stub d (Tools.schemaFields d.tool))) := by
    simp [toolLines]
  rw [shape]
  exact shows_gap.before isPartwise_blocks tool

theorem isName_functions :
    ∀ name ∈ ds.map (·.function), name ≠ [] ∧ ∀ c ∈ name, isNamePoint c := by
  intro name hn
  obtain ⟨d, hd, rfl⟩ := List.mem_map.mp hn
  obtain ⟨ne, word⟩ := isKeyName_iff.mp (named d hd).function
  exact ⟨ne, fun c hc => isNamePoint_of_isWordPoint (word c hc)⟩

theorem shows_allTools : Shows blocks (Text.unlines (allTools ds)) [listBlock ds] := by
  have names := isName_functions named
  have lays := lays_assignment (show isKeyName "ALL_TOOLS" by decide) 0 (expresses_namesText names 0)
  have opened : ("ALL_TOOLS = [" : Text) = "ALL_TOOLS" ++ (" = " ++ "[") := rfl
  have text : Text.unlines (allTools ds)
      = line 0 ("ALL_TOOLS" ++ ((" = " : Text) ++ namesText 0 (ds.map (·.function)))) ++ "\n" := by
    simp [allTools, Text.unlines, line, indent, namesText, opened, List.flatMap_map]
  rw [text]
  refine ⟨_, lays, ?_, blocks_block _ (List.forall_mem_nil _)⟩
  rintro l ⟨⟩
  rfl

theorem shows_toolsModule (ne : ds ≠ []) : Shows blocks (toolsModule ds) (toolsBlocks ds) := by
  have some_tool : ¬ds.isEmpty := by simp [ne]
  have lines : toolsLines ds = toolsHeader ++ (ds.flatMap fun d => [[], []] ++ toolLines d)
      ++ ([[], []] ++ allTools ds) := by
    rw [toolsLines, if_neg some_tool, List.append_assoc _ [[], []]]
  rw [toolsModule, lines]
  exact (shows_toolsHeader.1.unlines isPartwise_blocks (shows_tools named)).unlines isPartwise_blocks
    (shows_gap.before isPartwise_blocks (shows_allTools named))

end Module

/-! ## What a reader finds -/

/-- What a reader finds in the module of some tools. -/
def toolsReading (ds : List ToolDefinition) : ToolsReading where
  bound := (if ds.isEmpty then [] else headerNames) ++ (ds.flatMap fun d => [d.schema, d.function])
    ++ [("ALL_TOOLS" : Text)]
  functions := ds.map functionReading
  classes := ds.map classReading
  listed := ds.map (·.function)

theorem filter_of_all {bs : List Block} (h : bs.all fun b => !isFunction b && !isClass b) :
    bs.filter isFunction = [] ∧ bs.filter isClass = [] := by
  have each : ∀ b ∈ bs, isFunction b = false ∧ isClass b = false := by
    simpa using h
  exact ⟨List.filter_eq_nil_iff.mpr fun b hb => by simp [(each b hb).1],
    List.filter_eq_nil_iff.mpr fun b hb => by simp [(each b hb).2]⟩

theorem toolsOf?_eq {bs : List Block} {tools : List Leaf} {functions : List FunctionReading}
    {classes : List ClassReading} {listed : List Text} (one : assigned "ALL_TOOLS" bs = [tools])
    (hf : (bs.filter isFunction).mapM function? = some functions)
    (hc : (bs.filter isClass).mapM class? = some classes)
    (hl : (list? tools).bind (·.mapM name?) = some listed) :
    toolsOf? bs = some ⟨bs.flatMap (·.bound), functions, classes, listed⟩ := by
  obtain ⟨runs, list, names⟩ := Option.bind_eq_some_iff.mp hl
  simp only [toolsOf?, one, hf, hc, list, names, Option.bind_eq_bind, Option.bind_some]
  rfl

theorem tools?_of_shows {program : Text} {bs : List Block} (h : Shows blocks program bs) :
    tools? program = toolsOf? bs := by
  have found := h.read?
  rw [Option.map_eq_some_iff] at found
  obtain ⟨leaves, read, rfl⟩ := found
  rw [tools?, read]
  rfl

theorem tools?_emptyToolsModule : tools? (toolsModule []) = some (toolsReading []) := by
  obtain ⟨shows, neither, listed, bound⟩ := shows_emptyToolsModule
  obtain ⟨functions, classes⟩ := filter_of_all neither
  obtain ⟨tools, one, names⟩ := List.map_eq_singleton_iff.mp listed
  have noFunctions : (emptyBlocks.filter isFunction).mapM function? = some [] := by
    rw [functions]
    rfl
  have noClasses : (emptyBlocks.filter isClass).mapM class? = some [] := by
    rw [classes]
    rfl
  have whole := toolsOf?_eq one noFunctions noClasses names
  have lines : toolsModule [] = Text.unlines emptyToolsModule := rfl
  rw [lines, tools?_of_shows shows, whole, bound]
  rfl

section Blocks

variable {d : ToolDefinition} (named : Named d)

include named

theorem isFunction_functionBlock : isFunction (functionBlock d) = true := by
  have defined : Line.defined? ⟨0, (functionBlock d).head⟩ = some d.function :=
    Line.defined?_headRun named.function _ _
  rw [isFunction, defined]
  rfl

omit named in
theorem isClass_functionBlock : isClass (functionBlock d) = false := by
  have other : named? "class" (functionBlock d).head = none :=
    named?_headRun_of_ne (by decide) (by decide)
  rw [isClass, other]
  rfl

theorem isFunction_classBlock : isFunction (classBlock d) = false := by
  have undefined : Line.defined? ⟨0, (classBlock d).head⟩ = none := defined?_class named.schema _
  rw [isFunction, undefined]
  rfl

theorem isClass_classBlock : isClass (classBlock d) = true := by
  have head : named? "class" (classBlock d).head = some (d.schema, _) :=
    named?_headRun (by decide) named.schema
  rw [isClass, head]
  rfl

theorem bound_tool : [classBlock d, functionBlock d].flatMap (·.bound) = [d.schema, d.function] := by
  have schema : (classBlock d).bound = [d.schema] :=
    bound_class named.schema (by decide) _ _
  have function : (functionBlock d).bound = [d.function] :=
    bound_function named.function (by decide) _ _
  simp [schema, function]

theorem assigned_tool (name : Text) : assigned name [classBlock d, functionBlock d] = [] := by
  have schema : assignment? (classBlock d).head = none :=
    assignment?_headRun (by decide) named.schema (by decide) _
  have function : assignment? (functionBlock d).head = none :=
    assignment?_headRun (by decide) named.function (by decide) _
  simp [assigned, schema, function]

end Blocks

theorem assigned_append (name : Text) (bs cs : List Block) :
    assigned name (bs ++ cs) = assigned name bs ++ assigned name cs := by
  simp [assigned]

theorem assigned_flatMap {α : Type} (name : Text) {f : α → List Block} {xs : List α}
    (h : ∀ x ∈ xs, assigned name (f x) = []) : assigned name (xs.flatMap f) = [] := by
  induction xs with
  | nil => rfl
  | cons x xs ih =>
    rw [List.flatMap_cons, assigned_append, h x List.mem_cons_self,
      ih fun y hy => h y (List.mem_cons_of_mem x hy)]
    rfl

section Module

variable {ds : List ToolDefinition} (named : ∀ d ∈ ds, Named d)

include named

theorem filter_isFunction_tools :
    (ds.flatMap fun d => [classBlock d, functionBlock d]).filter isFunction
      = ds.map functionBlock := by
  rw [List.filter_flatMap, List.map_eq_flatMap]
  refine List.flatMap_congr fun d hd => ?_
  rw [List.filter_cons_of_neg (by simp [isFunction_classBlock (named d hd)]),
    List.filter_cons_of_pos (isFunction_functionBlock (named d hd)), List.filter_nil]

theorem filter_isClass_tools :
    (ds.flatMap fun d => [classBlock d, functionBlock d]).filter isClass = ds.map classBlock := by
  rw [List.filter_flatMap, List.map_eq_flatMap]
  refine List.flatMap_congr fun d hd => ?_
  rw [List.filter_cons_of_pos (isClass_classBlock (named d hd)),
    List.filter_cons_of_neg (by simp [isClass_functionBlock]), List.filter_nil]

theorem assignment?_listBlock : assignment? (listBlock ds).head
    = some ⟨"ALL_TOOLS", [], namesRun 0 (ds.map (·.function))⟩ :=
  assignment?_assignmentRun (by decide) (expresses_namesText (isName_functions named) 0).toValue

theorem assigned_listBlock :
    assigned "ALL_TOOLS" [listBlock ds] = [namesRun 0 (ds.map (·.function))] := by
  simp [assigned, assignment?_listBlock named]

theorem bound_listBlock : (listBlock ds).bound = [("ALL_TOOLS" : Text)] := by
  have undefined : Line.defined? ⟨0, (listBlock ds).head⟩ = none := rfl
  have other : named? "class" (listBlock ds).head = none := rfl
  -- the first word is the name, and no import begins with it
  have unrelated : imported (listBlock ds).head = [] := by
    have words : words (listBlock ds).head
        = ("ALL_TOOLS" : Text) :: words (namesRun 0 (ds.map (·.function))) :=
      stretches_assignmentRun isNameKind_isWordPoint (by decide) _
    have noImport : ¬("ALL_TOOLS" : Text) = "import" := by decide
    have noFrom : ¬("ALL_TOOLS" : Text) = "from" := by decide
    simp only [imported, words, if_neg noImport, if_neg noFrom]
  rw [Block.bound, undefined, other, assignment?_listBlock named, unrelated]
  rfl

/-- The blocks of a tools module tell its tools, each from a class and a function. -/
theorem toolsOf?_toolsBlocks (ne : ds ≠ []) :
    toolsOf? (toolsBlocks ds) = some (toolsReading ds) := by
  obtain ⟨-, neither, unassigned, bound⟩ := shows_toolsHeader
  obtain ⟨noFunctions, noClasses⟩ := filter_of_all neither
  have one : assigned "ALL_TOOLS" (toolsBlocks ds) = [namesRun 0 (ds.map (·.function))] := by
    have none := assigned_flatMap "ALL_TOOLS" fun d hd => assigned_tool (named d hd) "ALL_TOOLS"
    rw [toolsBlocks, assigned_append, assigned_append, List.isEmpty_iff.mp unassigned, none,
      assigned_listBlock named]
    rfl
  have listed : (list? (namesRun 0 (ds.map (·.function)))).bind (·.mapM name?)
      = some (ds.map (·.function)) := by
    rw [list?_namesRun (isName_functions named), Option.bind_some,
      mapM_name?_points (isName_functions named)]
  have functions : ((toolsBlocks ds).filter isFunction).mapM function?
      = some (ds.map functionReading) := by
    have last : [listBlock ds].filter isFunction = [] := rfl
    rw [toolsBlocks, List.filter_append, List.filter_append, noFunctions,
      filter_isFunction_tools named, last, List.nil_append, List.append_nil]
    exact mapM_map fun d hd => function?_functionBlock (named d hd).function (named d hd).schema
  have classes : ((toolsBlocks ds).filter isClass).mapM class? = some (ds.map classReading) := by
    have last : [listBlock ds].filter isClass = [] := rfl
    rw [toolsBlocks, List.filter_append, List.filter_append, noClasses,
      filter_isClass_tools named, last, List.nil_append, List.append_nil]
    exact mapM_map fun d hd => class?_classBlock (named d hd).schema (named d hd).fields
  have names : (toolsBlocks ds).flatMap (·.bound)
      = headerNames ++ (ds.flatMap fun d => [d.schema, d.function]) ++ [("ALL_TOOLS" : Text)] := by
    rw [toolsBlocks, List.flatMap_append, List.flatMap_append, bound, List.flatMap_assoc,
      List.flatMap_congr fun d hd => bound_tool (named d hd), List.flatMap_singleton,
      bound_listBlock named]
  have some_tool : ¬ds.isEmpty := by simp [ne]
  rw [toolsOf?_eq one functions classes listed, toolsReading, if_neg some_tool, names]

end Module

/-- What a reader finds in the tools module of some agents. -/
theorem tools?_toolsModule (agents : List Agent) :
    tools? (toolsModule (Tools.catalogue agents)) = some (toolsReading (Tools.catalogue agents)) := by
  have named : ∀ d ∈ Tools.catalogue agents, Named d := fun d hd => named_of_mem_catalogue hd
  by_cases ne : Tools.catalogue agents = []
  · rw [ne]
    exact tools?_emptyToolsModule
  · rw [tools?_of_shows (shows_toolsModule named ne)]
    exact toolsOf?_toolsBlocks named ne

end Project

end AgentWorkflow
