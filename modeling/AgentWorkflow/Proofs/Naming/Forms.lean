import AgentWorkflow.Proofs.Naming.Conventions
import Mathlib.Computability.Language

/-!
# The forms of names

Every naming convention brings a text into a form, given by a regular expression, and leaves a text
that has this form as it is. Then it brings forth all texts of the form and no others, they are the
texts that it does not change, and using it twice is using it once.

Letters outside ASCII do not get in, whatever their small letters are: putting a text into small
letters comes before the points that a form does not have are taken out.

Results:
1. `collapse_of_all`, `trimBy_collapse`: what becomes of a text whose points are all kept, and how
   the words of any other are joined.
2. `snakeCase_mem`, `identifier_mem`, `toolFunction_mem`, `pascalCase_mem`, `kebabCase_mem`: every
   text is brought into the form.
3. `normalizes_conventions`: all that the conventions have to do with their forms.
-/

namespace AgentWorkflow

namespace Naming

open scoped Computability

variable {c : CodePoint} {t : Text} {p keep : CodePoint → Bool} {filler : CodePoint}

/-! ## The forms -/

/-- The texts of one point of a kind. -/
def one (p : CodePoint → Bool) : Language CodePoint := {t | ∃ c, p c ∧ t = [c]}

/-- `[a-z_][a-z0-9_]*`. -/
def snakeForm : Language CodePoint :=
  one (fun c => c.isLower || c = '_') * (one fun c => c.isLower || c.isDigit || c = '_')∗

/-- `[a-z_][a-z0-9_]*`, but no keyword. -/
def identifierForm : Language CodePoint := {t | t ∈ snakeForm ∧ t ∉ keywords}

/-- `[a-z_][a-z0-9_]*`, but no keyword and no name that the tools module uses itself. -/
def toolForm : Language CodePoint := {t | t ∈ identifierForm ∧ t ∉ toolsModuleNames}

/-- `[A-Z][A-Za-z0-9]*` or `_[0-9][A-Za-z0-9]*`. -/
def pascalForm : Language CodePoint :=
  one CodePoint.isUpper * (one CodePoint.isAlnum)∗
    + one (· = '_') * (one CodePoint.isDigit * (one CodePoint.isAlnum)∗)

/-- `[a-z0-9]+`. -/
def kebabWord : Language CodePoint :=
  one (fun c => c.isLower || c.isDigit) * (one fun c => c.isLower || c.isDigit)∗

/-- Nothing, or `[a-z0-9]+(-[a-z0-9]+)*`. -/
def kebabForm : Language CodePoint := 1 + kebabWord * (one (· = '-') * kebabWord)∗

/-- Using `f` twice is using it once, and the texts that come out of it, which are those that it
leaves as they are, are exactly those of the form. -/
structure Normalizes (f : Text → Text) (form : Language CodePoint) : Prop where
  idempotent : ∀ t, f (f t) = f t
  image : ∀ t, (∃ u, f u = t) ↔ t ∈ form
  fixed : ∀ t, f t = t ↔ t ∈ form

theorem Normalizes.of_mem {f : Text → Text} {form : Language CodePoint} (into : ∀ t, f t ∈ form)
    (keeps : ∀ t ∈ form, f t = t) : Normalizes f form where
  idempotent t := keeps (f t) (into t)
  image t := ⟨fun ⟨u, made⟩ => made ▸ into u, fun h => ⟨t, keeps t h⟩⟩
  fixed t := ⟨fun same => same ▸ into t, keeps t⟩

theorem mem_one_mul {rest : Language CodePoint} :
    t ∈ one p * rest ↔ ∃ c u, t = c :: u ∧ p c ∧ u ∈ rest := by
  rw [Language.mem_mul]
  constructor
  · rintro ⟨_, ⟨c, hc, rfl⟩, u, hu, rfl⟩
    exact ⟨c, u, rfl, hc, hu⟩
  · rintro ⟨c, u, rfl, hc, hu⟩
    exact ⟨[c], ⟨c, hc, rfl⟩, u, hu, rfl⟩

theorem mem_star_one : t ∈ (one p)∗ ↔ ∀ c ∈ t, p c := by
  rw [Language.mem_kstar]
  constructor
  · rintro ⟨parts, rfl, ones⟩ c hc
    obtain ⟨part, hpart, hc⟩ := List.mem_flatten.mp hc
    obtain ⟨d, hd, rfl⟩ := ones part hpart
    exact List.mem_singleton.mp hc ▸ hd
  · intro all
    refine ⟨t.map fun c => [c], ?_, fun part hpart => ?_⟩
    · rw [← List.flatMap_def, List.flatMap_singleton']
    · obtain ⟨c, hc, rfl⟩ := List.mem_map.mp hpart
      exact ⟨c, all c hc, rfl⟩

/-! ## Texts that nothing is done to -/

/-- True of a small letter, a digit, an underscore or a hyphen. -/
def isSmallPoint (c : CodePoint) : Bool := isSnakePoint c || c = '-'

theorem bounds_of_isSmallPoint {c : CodePoint} (h : isSmallPoint c) :
    (0x2D ≤ c.val ∧ c.val < 0x80) ∧ c.isUpper = false := by
  simp only [isSmallPoint, isSnakePoint, Bool.or_eq_true, decide_eq_true_eq] at h
  rcases h with ((letter | digit) | rfl) | rfl
  · simp only [CodePoint.isLower, CodePoint.isUpper, Bool.and_eq_true, decide_eq_true_eq,
      Bool.and_eq_false_iff, decide_eq_false_iff_not] at letter ⊢
    omega
  · simp only [CodePoint.isDigit, CodePoint.isUpper, Bool.and_eq_true, decide_eq_true_eq,
      Bool.and_eq_false_iff, decide_eq_false_iff_not] at digit ⊢
    omega
  · decide
  · decide

section Small

variable (small : ∀ c ∈ t, isSmallPoint c)

include small

theorem trim_of_small : t.trim = t := by
  have visible : ∀ n < 0x80, 0x2D ≤ n → inRanges n blankRanges = false := by decide
  refine Text.trimBy_of_forall fun c hc => ?_
  obtain ⟨⟨low, high⟩, -⟩ := bounds_of_isSmallPoint (small c hc)
  exact visible c.val high low

theorem lower_of_small : t.lower = t := by
  have each : ∀ c ∈ t, c.lower = [c] := by
    intro c hc
    obtain ⟨⟨-, ascii⟩, other⟩ := bounds_of_isSmallPoint (small c hc)
    rw [CodePoint.lower, if_pos ascii, CodePoint.asciiLower, other, if_neg Bool.false_ne_true]
  rw [Text.lower, List.flatMap_congr each, List.flatMap_singleton']

end Small

theorem collapse_of_all {inRun : Bool} (h : ∀ c ∈ t, keep c) :
    collapse keep filler inRun t = t := by
  induction t generalizing inRun with
  | nil => rfl
  | cons c t ih =>
    obtain ⟨hc, ht⟩ := List.forall_mem_cons.mp h
    rw [collapse, if_pos hc, ih ht]

theorem guardDigit_of_not_isDigit (h : ∀ c ∈ t.head?, c.isDigit = false) : guardDigit t = t := by
  cases t with
  | nil => rfl
  | cons c t => rw [guardDigit, h c rfl, if_neg Bool.false_ne_true]

/-! ## Snake case -/

theorem isLower_or_underscore_iff {c : CodePoint} :
    (c.isLower || c = '_') = true ↔ isSnakePoint c ∧ c.isDigit = false := by
  by_cases digit : c.isDigit
  · have letter : c.isLower = false := by
      simp only [CodePoint.isDigit, CodePoint.isLower, Bool.and_eq_true, decide_eq_true_eq,
        Bool.and_eq_false_iff, decide_eq_false_iff_not] at digit ⊢
      omega
    have sign : c ≠ '_' := by
      rintro rfl
      cases digit
    simp [letter, sign, digit]
  · simp [isSnakePoint, digit]

/-- Membership without the language operators: points of the kind, and no digit first. -/
theorem mem_snakeForm : t ∈ snakeForm ↔
    t ≠ [] ∧ (∀ c ∈ t, isSnakePoint c) ∧ ∀ c ∈ t.head?, c.isDigit = false := by
  rw [snakeForm, mem_one_mul]
  simp only [mem_star_one]
  constructor
  · rintro ⟨c, u, rfl, hc, hu⟩
    obtain ⟨snake, letter⟩ := isLower_or_underscore_iff.mp hc
    refine ⟨List.cons_ne_nil c u, List.forall_mem_cons.mpr ⟨snake, hu⟩, fun d hd => ?_⟩
    exact Option.some.inj hd ▸ letter
  · rintro ⟨ne, snake, letter⟩
    obtain ⟨c, u, rfl⟩ := List.exists_cons_of_ne_nil ne
    obtain ⟨hc, hu⟩ := List.forall_mem_cons.mp snake
    exact ⟨c, u, rfl, isLower_or_underscore_iff.mpr ⟨hc, letter c rfl⟩, hu⟩

theorem snakeCase_mem (t : Text) : snakeCase t ∈ snakeForm :=
  mem_snakeForm.mpr ⟨snakeCase_ne_nil t, fun _ => isSnakePoint_of_mem_snakeCase,
    fun _ => isDigit_head_snakeCase⟩

theorem snakeCase_of_mem (h : t ∈ snakeForm) : snakeCase t = t := by
  obtain ⟨ne, snake, letter⟩ := mem_snakeForm.mp h
  have small : ∀ c ∈ t, isSmallPoint c := fun c hc => Bool.or_eq_true_iff.mpr (.inl (snake c hc))
  simp only [snakeCase, trim_of_small small, lower_of_small small, collapse_of_all snake,
    List.isEmpty_eq_false_iff.mpr ne, guardDigit_of_not_isDigit letter, Bool.false_eq_true, if_false]

/-- What is put behind a name in snake case may be an underscore. -/
theorem append_underscore_mem (h : t ∈ snakeForm) : t ++ "_" ∈ snakeForm := by
  obtain ⟨ne, snake, letter⟩ := mem_snakeForm.mp h
  refine mem_snakeForm.mpr ⟨List.append_ne_nil_of_left_ne_nil ne _, fun c hc => ?_, fun c hc => ?_⟩
  · rcases List.mem_append.mp hc with hc | hc
    · exact snake c hc
    · rw [List.mem_singleton.mp hc]
      decide
  · rw [List.head?_append_of_ne_nil t ne] at hc
    exact letter c hc

/-! ## Identifiers -/

theorem not_mem_keywords (h : isKeyword t = false) : t ∉ keywords :=
  mt List.contains_iff_mem.mpr (Bool.eq_false_iff.mp h)

theorem identifier_mem (t : Text) : identifier t ∈ identifierForm := by
  refine ⟨?_, not_mem_keywords (isKeyword_identifier t)⟩
  simp only [identifier]
  split
  · exact append_underscore_mem (snakeCase_mem t)
  · exact snakeCase_mem t

theorem identifier_of_mem (h : t ∈ identifierForm) : identifier t = t := by
  obtain ⟨snake, other⟩ := h
  have free : isKeyword t = false := Bool.eq_false_iff.mpr (mt List.contains_iff_mem.mp other)
  simp only [identifier, snakeCase_of_mem snake, free, Bool.false_eq_true, if_false]

theorem toolFunction_mem (t : Text) : toolFunction t ∈ toolForm := by
  refine ⟨?_, toolFunction_not_mem t⟩
  simp only [toolFunction]
  split
  · exact ⟨append_underscore_mem (identifier_mem t).1, not_mem_keywords
      (not_isKeyword_of_underscore (List.mem_append_right _ List.mem_cons_self))⟩
  · exact identifier_mem t

theorem toolFunction_of_mem (h : t ∈ toolForm) : toolFunction t = t := by
  obtain ⟨usable, other⟩ := h
  have free : toolsModuleNames.contains t = false :=
    Bool.eq_false_iff.mpr (mt List.contains_iff_mem.mp other)
  simp only [toolFunction, identifier_of_mem usable, free, Bool.false_eq_true, if_false]

/-! ## Pascal case -/

/-- Membership without the language operators: a capital first, or an underscore and a digit. -/
theorem mem_pascalForm : t ∈ pascalForm ↔
    (∃ c u, t = c :: u ∧ c.isUpper ∧ ∀ d ∈ u, d.isAlnum) ∨
      ∃ (c : CodePoint) (u : Text), t = ('_' : CodePoint) :: c :: u ∧ c.isDigit ∧
        ∀ d ∈ u, d.isAlnum := by
  rw [pascalForm, Language.mem_add, mem_one_mul, mem_one_mul]
  simp only [mem_one_mul, mem_star_one, decide_eq_true_eq]
  refine or_congr_right ⟨?_, ?_⟩
  · rintro ⟨_, _, rfl, rfl, c, u, rfl, hc, hu⟩
    exact ⟨c, u, rfl, hc, hu⟩
  · rintro ⟨c, u, rfl, hc, hu⟩
    exact ⟨_, _, rfl, rfl, c, u, rfl, hc, hu⟩

theorem isUpper_or_isDigit_asciiUpper {c : CodePoint} (h : c.isAlnum) :
    c.asciiUpper.isUpper ∨ c.asciiUpper.isDigit := by
  have alnum := isAlnum_asciiUpper h
  have capital : c.asciiUpper.isLower = false := by
    rw [CodePoint.asciiUpper]
    split
    · next letter =>
      simp only [CodePoint.isLower, Bool.and_eq_true, decide_eq_true_eq] at letter
      have hv : (CodePoint.ofNat (c.val - 32)).val = c.val - 32 :=
        CodePoint.val_ofNat (by have := c.val_lt; omega)
      simp only [CodePoint.isLower, hv, Bool.and_eq_false_iff, decide_eq_false_iff_not]
      omega
    · next other => exact Bool.eq_false_iff.mpr other
  simpa [CodePoint.isAlnum, CodePoint.isLetter, capital] using alnum

theorem asciiUpper_of_not_isLower {c : CodePoint} (h : c.isLower = false) : c.asciiUpper = c := by
  rw [CodePoint.asciiUpper, h, if_neg Bool.false_ne_true]

theorem pascalCase_mem (t : Text) : pascalCase t ∈ pascalForm := by
  simp only [pascalCase]
  split
  · exact mem_pascalForm.mpr (.inl ⟨'U', "nnamed", rfl, by decide, by decide⟩)
  · next named =>
    have alnum : ∀ c ∈ (t.runs CodePoint.isAlnum).flatMap capitalize, c.isAlnum := fun _ =>
      isAlnum_of_mem_capitalized
    have front : ∀ c ∈ ((t.runs CodePoint.isAlnum).flatMap capitalize).head?,
        c.isUpper ∨ c.isDigit := by
      cases words : t.runs CodePoint.isAlnum with
      | nil => rintro c ⟨⟩
      | cons word more =>
        have hw : word ∈ t.runs CodePoint.isAlnum := words ▸ List.mem_cons_self
        obtain ⟨d, rest, rfl⟩ := List.exists_cons_of_ne_nil (Text.ne_nil_of_mem_runs hw)
        rintro c ⟨⟩
        exact isUpper_or_isDigit_asciiUpper (Text.mem_runs hw List.mem_cons_self).2
    rw [List.isEmpty_iff] at named
    obtain ⟨c, u, name⟩ := List.exists_cons_of_ne_nil named
    rw [name] at alnum front ⊢
    have rest : ∀ d ∈ u, d.isAlnum := fun d hd => alnum d (List.mem_cons_of_mem c hd)
    rw [guardDigit]
    split
    · next digit => exact mem_pascalForm.mpr (.inr ⟨c, u, rfl, digit, rest⟩)
    · next other =>
      exact mem_pascalForm.mpr (.inl ⟨c, u, rfl, (front c rfl).resolve_right other, rest⟩)

theorem pascalCase_of_mem (h : t ∈ pascalForm) : pascalCase t = t := by
  -- the only word of the text is all of it, or all but the underscore in front
  have single : ∀ {c : CodePoint} {u : Text}, c.isUpper ∨ c.isDigit → (∀ d ∈ u, d.isAlnum) →
      (Text.runs CodePoint.isAlnum (c :: u)).flatMap capitalize = c :: u := by
    intro c u first rest
    have alnum : c.isAlnum := by
      rcases first with h | h <;> simp [CodePoint.isAlnum, CodePoint.isLetter, h]
    have capital : c.isLower = false := by
      simp only [CodePoint.isUpper, CodePoint.isDigit, CodePoint.isLower, Bool.and_eq_true,
        decide_eq_true_eq, Bool.and_eq_false_iff, decide_eq_false_iff_not] at first ⊢
      omega
    rw [Text.runs_of_all (List.cons_ne_nil c u) (List.forall_mem_cons.mpr ⟨alnum, rest⟩),
      List.flatMap_singleton, capitalize, asciiUpper_of_not_isLower capital]
  rcases mem_pascalForm.mp h with ⟨c, u, rfl, upper, rest⟩ | ⟨c, u, rfl, digit, rest⟩
  · have letter : c.isDigit = false := by
      simp only [CodePoint.isUpper, CodePoint.isDigit, Bool.and_eq_true, decide_eq_true_eq,
        Bool.and_eq_false_iff, decide_eq_false_iff_not] at upper ⊢
      omega
    simp only [pascalCase, single (.inl upper) rest, guardDigit, letter, List.isEmpty_cons,
      Bool.false_eq_true, if_false]
  · have behind : Text.runs CodePoint.isAlnum (('_' : CodePoint) :: c :: u)
        = Text.runs CodePoint.isAlnum (c :: u) := Text.runs_cons_of_neg (by decide)
    simp only [pascalCase, behind, single (.inr digit) rest, guardDigit, digit, List.isEmpty_cons,
      Bool.false_eq_true, if_false, if_true]

/-! ## Words and what joins them -/

/-- A word of kept points. -/
def IsWordOf (keep : CodePoint → Bool) (word : Text) : Prop := word ≠ [] ∧ ∀ c ∈ word, keep c

theorem isWordOf_of_mem_runs {word : Text} (h : word ∈ t.runs keep) : IsWordOf keep word :=
  ⟨Text.ne_nil_of_mem_runs h, fun _ hc => (Text.mem_runs h hc).2⟩

section Joined

variable {words : List Text} (h : ∀ word ∈ words, IsWordOf keep word)

include h

theorem head_join_of_words (hc : c ∈ (Text.join [filler] words).head?) : keep c := by
  cases words with
  | nil => cases hc
  | cons word more =>
    obtain ⟨ne, kept⟩ := h word List.mem_cons_self
    rw [Text.join_cons, List.head?_append_of_ne_nil word ne] at hc
    exact kept c (List.mem_of_mem_head? hc)

theorem getLast_join_of_words (hc : c ∈ (Text.join [filler] words).getLast?) : keep c := by
  induction words with
  | nil => cases hc
  | cons word more ih =>
    obtain ⟨here, there⟩ := List.forall_mem_cons.mp h
    cases more with
    | nil =>
      rw [Text.join_cons, List.flatMap_nil, List.append_nil] at hc
      exact here.2 c (List.mem_of_mem_getLast? hc)
    | cons next more =>
      have ne : Text.join [filler] (next :: more) ≠ [] := by
        rw [Text.join_cons]
        exact List.append_ne_nil_of_left_ne_nil (there next List.mem_cons_self).1 _
      rw [Text.join_cons_cons, List.getLast?_append_of_ne_nil _ ne] at hc
      exact ih there hc

/-- Words of kept points, joined by a point that is not kept, are read back as the runs. -/
theorem runs_join (other : keep filler = false) :
    Text.runs keep (Text.join [filler] words) = words := by
  induction words with
  | nil => rfl
  | cons word more ih =>
    obtain ⟨⟨ne, kept⟩, there⟩ := List.forall_mem_cons.mp h
    have alone := Text.runs_of_all ne kept
    cases more with
    | nil => rw [Text.join_cons, List.flatMap_nil, List.append_nil, alone]
    | cons next more =>
      rw [Text.join_cons_cons, List.append_assoc, List.singleton_append, Text.runs,
        Text.runsFrom_append_cons keep [] word other, ← Text.runs, alone, ih there]
      rfl

end Joined

/-- `Joins filler words u`: `u` is the words with a filler between neighbours, and perhaps some more
fillers at the end. -/
def Joins (filler : CodePoint) (words : List Text) (u : Text) : Prop :=
  ∃ behind, (∀ c ∈ behind, c = filler) ∧ u = Text.join [filler] words ++ behind

theorem Joins.cons {words : List Text} {u : Text} (h : Joins filler words u) (word : Text) :
    Joins filler (word :: words) (word ++ filler :: u) := by
  obtain ⟨behind, fillers, rfl⟩ := h
  cases words with
  | nil => exact ⟨filler :: behind, List.forall_mem_cons.mpr ⟨rfl, fillers⟩, by simp [Text.join]⟩
  | cons next more => exact ⟨behind, fillers, by simp [Text.join_cons_cons]⟩

/-- Collapsing joins the words, be it in a run of other points or in a word, of which `current` has
been read. -/
theorem joins_collapse (keep : CodePoint → Bool) (filler : CodePoint) (t : Text) :
    Joins filler (t.runs keep) (collapse keep filler true t) ∧
      ∀ current : Text, current ≠ [] →
        Joins filler (Text.runsFrom keep current t)
          (current.reverse ++ collapse keep filler false t) := by
  induction t with
  | nil =>
    refine ⟨⟨[], List.forall_mem_nil _, rfl⟩, fun current ne => ⟨[], List.forall_mem_nil _, ?_⟩⟩
    simp [collapse, Text.runsFrom, ne, Text.join]
  | cons c t ih =>
    obtain ⟨gap, word⟩ := ih
    by_cases kept : keep c
    · rw [collapse, if_pos kept, Text.runs_cons_of_pos kept]
      refine ⟨word [c] (List.cons_ne_nil c []), fun current ne => ?_⟩
      rw [collapse, if_pos kept, Text.runsFrom, if_pos kept]
      simpa using word (c :: current) (List.cons_ne_nil c current)
    · rw [collapse, if_neg kept, if_pos rfl, Text.runs_cons_of_neg kept]
      refine ⟨gap, fun current ne => ?_⟩
      rw [collapse, if_neg kept, if_neg Bool.false_ne_true, Text.runsFrom_cons_of_neg kept ne]
      exact gap.cons current.reverse

/-- Without the fillers at the ends, what is collapsed is the words with a filler between
neighbours. -/
theorem trimBy_collapse (other : keep filler = false) (t : Text) :
    Text.trimBy (· = filler) (collapse keep filler false t)
      = Text.join [filler] (t.runs keep) := by
  have words : ∀ word ∈ t.runs keep, IsWordOf keep word := fun _ => isWordOf_of_mem_runs
  have apart : ∀ {c : CodePoint}, keep c → decide (c = filler) = false := by
    intro c kept
    refine decide_eq_false ?_
    rintro rfl
    exact Bool.false_ne_true (other.symm.trans kept)
  have front : ∃ before, (∀ c ∈ before, c = filler) ∧
      ∃ u, Joins filler (t.runs keep) u ∧ collapse keep filler false t = before ++ u := by
    cases t with
    | nil => exact ⟨[], List.forall_mem_nil _, [], ⟨[], List.forall_mem_nil _, rfl⟩, rfl⟩
    | cons c t =>
      by_cases kept : keep c
      · rw [collapse, if_pos kept, Text.runs_cons_of_pos kept]
        exact ⟨[], List.forall_mem_nil _, _,
          (joins_collapse keep filler t).2 [c] (List.cons_ne_nil c []), rfl⟩
      · rw [collapse, if_neg kept, if_neg Bool.false_ne_true, Text.runs_cons_of_neg kept]
        exact ⟨[filler], fun d hd => List.mem_singleton.mp hd, _, (joins_collapse keep filler t).1,
          rfl⟩
  obtain ⟨before, fill, _, ⟨behind, fillers, rfl⟩, same⟩ := front
  rw [same, ← List.append_assoc]
  exact Text.trimBy_append (fun c hc => decide_eq_true (fill c hc))
    (fun c hc => decide_eq_true (fillers c hc)) (fun c hc => apart (head_join_of_words words hc))
    fun c hc => apart (getLast_join_of_words words hc)

/-! ## Kebab case -/

/-- The text in kebab case is its words with hyphens between neighbours. -/
theorem kebabCase_eq (t : Text) : kebabCase t
    = Text.join "-" ((splitCamel t.trim).lower.runs isKebabPoint) :=
  trimBy_collapse (by decide) _

theorem mem_kebabWord : t ∈ kebabWord ↔ IsWordOf isKebabPoint t := by
  rw [kebabWord, mem_one_mul]
  simp only [mem_star_one]
  constructor
  · rintro ⟨c, u, rfl, hc, hu⟩
    exact ⟨List.cons_ne_nil c u, List.forall_mem_cons.mpr ⟨hc, hu⟩⟩
  · rintro ⟨ne, all⟩
    obtain ⟨c, u, rfl⟩ := List.exists_cons_of_ne_nil ne
    exact ⟨c, u, rfl, List.forall_mem_cons.mp all⟩

/-- Membership in the form without the language operators: words with a dash between any two. -/
theorem mem_kebabForm : t ∈ kebabForm ↔
    ∃ words : List Text, (∀ word ∈ words, IsWordOf isKebabPoint word) ∧ t = Text.join "-" words := by
  rw [kebabForm, Language.mem_add, Language.mem_one, Language.mem_mul]
  constructor
  · rintro (rfl | ⟨word, hword, rest, hrest, rfl⟩)
    · exact ⟨[], List.forall_mem_nil _, rfl⟩
    · obtain ⟨parts, rfl, hparts⟩ := Language.mem_kstar.mp hrest
      have cut : ∀ part ∈ parts, IsWordOf isKebabPoint part.tail ∧ "-" ++ part.tail = part := by
        intro part hpart
        obtain ⟨c, u, rfl, hc, hu⟩ := mem_one_mul.mp (hparts part hpart)
        rw [of_decide_eq_true hc]
        exact ⟨mem_kebabWord.mp hu, rfl⟩
      refine ⟨word :: parts.map List.tail, List.forall_mem_cons.mpr ⟨mem_kebabWord.mp hword, ?_⟩, ?_⟩
      · exact List.forall_mem_map.mpr fun part hpart => (cut part hpart).1
      · rw [Text.join_cons, List.flatMap_map, List.flatMap_congr fun part hpart => (cut part hpart).2,
          List.flatMap_id']
  · rintro ⟨words, all, rfl⟩
    cases words with
    | nil => exact .inl rfl
    | cons word more =>
      obtain ⟨hword, hmore⟩ := List.forall_mem_cons.mp all
      refine .inr ⟨word, mem_kebabWord.mpr hword, _, ?_, (Text.join_cons ..).symm⟩
      rw [List.flatMap_def]
      refine Language.join_mem_kstar (List.forall_mem_map.mpr fun next hnext => ?_)
      exact mem_one_mul.mpr ⟨'-', next, rfl, rfl, mem_kebabWord.mpr (hmore next hnext)⟩

theorem kebabCase_mem (t : Text) : kebabCase t ∈ kebabForm :=
  mem_kebabForm.mpr ⟨_, fun _ => isWordOf_of_mem_runs, kebabCase_eq t⟩

theorem splitCamel_of_not_isUpper (h : ∀ c ∈ t, c.isUpper = false) : splitCamel t = t := by
  fun_induction splitCamel t with
  | case1 => rfl
  | case2 => rfl
  | case3 c d rest camel ih =>
    rw [h d (List.mem_cons_of_mem c List.mem_cons_self), Bool.and_false] at camel
    cases camel
  | case4 c d rest plain ih => rw [ih fun e he => h e (List.mem_cons_of_mem c he)]

/-- A text of the form is a fixed point: its words are its runs. -/
theorem kebabCase_of_mem (h : t ∈ kebabForm) : kebabCase t = t := by
  obtain ⟨words, all, rfl⟩ := mem_kebabForm.mp h
  have small : ∀ c ∈ Text.join "-" words, isSmallPoint c := by
    intro c hc
    rcases Text.mem_join hc with hc | ⟨word, hword, hc⟩
    · rw [List.mem_singleton.mp hc]
      decide
    · have kept := (all word hword).2 c hc
      simp only [isKebabPoint] at kept
      simp [isSmallPoint, isSnakePoint, kept]
  have capitals : ∀ c ∈ Text.join "-" words, c.isUpper = false := fun c hc =>
    (bounds_of_isSmallPoint (small c hc)).2
  rw [kebabCase_eq, trim_of_small small, splitCamel_of_not_isUpper capitals, lower_of_small small]
  exact congrArg _ (runs_join all (by decide))

/-- Every convention brings forth exactly the texts of its form, which are those that it leaves as
they are, and using it twice is using it once. -/
theorem normalizes_conventions : Normalizes snakeCase snakeForm ∧
    Normalizes identifier identifierForm ∧ Normalizes toolFunction toolForm ∧
    Normalizes pascalCase pascalForm ∧ Normalizes kebabCase kebabForm :=
  ⟨.of_mem snakeCase_mem fun _ => snakeCase_of_mem,
    .of_mem identifier_mem fun _ => identifier_of_mem,
    .of_mem toolFunction_mem fun _ => toolFunction_of_mem,
    .of_mem pascalCase_mem fun _ => pascalCase_of_mem,
    .of_mem kebabCase_mem fun _ => kebabCase_of_mem⟩

end Naming

end AgentWorkflow
