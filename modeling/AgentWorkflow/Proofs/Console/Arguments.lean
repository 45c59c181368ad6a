import AgentWorkflow.Console.Command

/-!
# Plain arguments

An argument that does not begin with a dash is never taken for an option. With such arguments, the
shortest ways to write the commands name them (`ofArguments_validate`, `ofArguments_generate`).
-/

namespace AgentWorkflow

namespace Console

variable {file out : Text}

/-- True of an argument that does not begin with a dash. -/
abbrev IsPlain (argument : Text) : Prop := argument.head? ≠ some '-'

theorem ne_dashes_of_isPlain {argument : Text} (h : IsPlain argument) : argument ≠ "--" := by
  rintro rfl
  exact h rfl

theorem tokens_cons {g : Grammar} {argument : Text} (other : argument ≠ "--") {role : Role}
    (hr : g.role argument = .ok role) {rest : List Text} {behind : List Token}
    (hb : g.tokens rest = .ok behind) :
    g.tokens (argument :: rest) = .ok (⟨argument, role⟩ :: behind) := by
  simp only [Grammar.tokens, if_neg other, hr, hb]
  rfl

theorem tokens_plain {g : Grammar} {argument : Text} (h : IsPlain argument) {rest : List Text}
    {behind : List Token} (hb : g.tokens rest = .ok behind) :
    g.tokens (argument :: rest) = .ok (⟨argument, .operand⟩ :: behind) :=
  tokens_cons (ne_dashes_of_isPlain h) (if_pos h) hb

/-- An option that takes a text, and the plain argument behind it. -/
theorem takeOption_value {g : Grammar} {rule : OptionRule} (kind : rule.kind = .value false)
    {value : Text} (hv : IsPlain value) (t : Taken) (argument : Text) (rest : List Token) :
    takeOption g t argument ⟨some rule, argument, none⟩ (⟨value, .operand⟩ :: rest)
      = .ok ({ t with options := t.options ++ [(rule, some value)] }, rest) := by
  simp only [takeOption, kind, Taken.addValue, if_neg (ne_dashes_of_isPlain hv), Bool.false_and,
    Bool.false_eq_true, if_false]
  rfl

theorem take_of_tokens {g : Grammar} {arguments : List Text} {tokens : List Token} {taken : Taken}
    (ht : g.tokens arguments = .ok tokens) (hs : takeTokens g tokens.length {} tokens = .ok taken)
    (complete : missingNames g taken = []) : g.take arguments = .ok taken := by
  simp only [Grammar.take, ht, bind, Except.bind, hs, complete, pure, Except.pure]

theorem takeFor_of_take {topic : Topic} {arguments : List Text} {taken : Taken}
    (h : topic.grammar.take arguments = .ok taken) : takeFor topic arguments = .ok taken := by
  rw [takeFor, h]
  rfl

theorem takeFor_validate (hf : IsPlain file) :
    takeFor .validate [file] = .ok { operand := some [file] } :=
  takeFor_of_take (take_of_tokens (tokens_plain hf rfl) rfl rfl)

/-- The tokens of an output directory behind its option. -/
theorem tokens_out (ho : IsPlain out) : Topic.generate.grammar.tokens ["--out", out]
    = .ok [⟨"--out", .option ⟨some outRule, "--out", none⟩⟩, ⟨out, .operand⟩] :=
  tokens_cons (by decide) rfl (@tokens_plain _ _ ho [] _ rfl)

theorem takeFor_generate (hf : IsPlain file) (ho : IsPlain out) :
    takeFor .generate [file, "--out", out]
      = .ok { options := [(outRule, some out)], operand := some [file] } := by
  refine takeFor_of_take (take_of_tokens (tokens_plain hf (tokens_out ho)) ?_ rfl)
  -- first the operand is taken, then the option with its value
  change takeTokens Topic.generate.grammar 2 { operand := some [file] }
    [⟨"--out", .option ⟨some outRule, "--out", none⟩⟩, ⟨out, .operand⟩] = _
  have taken := @takeOption_value Topic.generate.grammar outRule rfl out ho
    { operand := some [file] } "--out" []
  simp only [takeTokens, taken, bind, Except.bind]
  rfl

theorem ofArguments_validate (hf : IsPlain file) :
    Command.ofArguments ["validate", file] = .ok (.validate file) := by
  have validate : IsPlain "validate" := by decide
  have outer : takeFor .program ["validate", file] = .ok { operand := some ["validate", file] } :=
    takeFor_of_take (take_of_tokens (tokens_plain validate (tokens_plain hf rfl)) rfl rfl)
  simp only [Command.ofArguments, outer, bind, Except.bind, Topic.ofName?, if_true,
    takeFor_validate hf]
  rfl

theorem ofArguments_generate (hf : IsPlain file) (ho : IsPlain out) :
    Command.ofArguments ["generate", file, "--out", out]
      = .ok (.generate file (some out) false false false) := by
  have generate : IsPlain "generate" := by decide
  have tokens : Topic.program.grammar.tokens ["--out", out]
      = .ok [⟨"--out", .option ⟨none, "--out", none⟩⟩, ⟨out, .operand⟩] :=
    tokens_cons (by decide) rfl (@tokens_plain _ _ ho [] _ rfl)
  have outer : takeFor .program ["generate", file, "--out", out]
      = .ok { operand := some ["generate", file, "--out", out] } :=
    takeFor_of_take (take_of_tokens (tokens_plain generate (tokens_plain hf tokens)) rfl rfl)
  have named : Topic.ofName? "generate" = some .generate := rfl
  simp only [Command.ofArguments, outer, bind, Except.bind, named, takeFor_generate hf ho]
  rfl

end Console

end AgentWorkflow
