import AgentWorkflow.Proofs.Source.Literals
import AgentWorkflow.Source.Bracket
import Mathlib.Data.List.Forall2

/-!
# Twin texts

Two programs made from workflows that differ in wording alone are *twins*: outside the contents of
their literals they are the same, point by point. The one difference that is allowed is how a
prompt is cut into literals. Twins are put together from twin parts, and along the way the open
brackets are kept account of, so a text that is its own twin from no open bracket to none is closed.

Results:
1. `nesting_append_right`, `openBrackets_of_nesting`: brackets can be matched stretch by stretch.
2. `Twins.append`, `Twins.lines_flatMap`: twins from twin parts.
3. `Twins.closed`, `Twins.sameElements`: what twins are good for.
-/

namespace AgentWorkflow

namespace Source

/-! ## Brackets, stretch by stretch -/

/-- The open brackets after one more piece, none if the piece closes what is not open. -/
def nest (stack : List CodePoint) : Piece → Option (List CodePoint)
  | .point c =>
    if (closing? c).isSome then some (c :: stack)
    else if isClosing c then
      match stack with
      | [] => none
      | b :: rest => if closing? b = some c then some rest else none
    else some stack
  | _ => some stack

/-- The open brackets after more pieces. -/
def nesting (stack : List CodePoint) (ps : List Piece) : Option (List CodePoint) :=
  ps.foldlM nest stack

theorem nesting_append {s s' s'' : List CodePoint} {ps qs : List Piece}
    (hp : nesting s ps = some s') (hq : nesting s' qs = some s'') :
    nesting s (ps ++ qs) = some s'' := by
  rw [nesting, List.foldlM_append]
  exact (Option.bind_eq_some_iff).mpr ⟨s', hp, hq⟩

/-- Brackets that are open further out do not matter. -/
theorem nest_append_right {s s' : List CodePoint} {p : Piece} (h : nest s p = some s')
    (outer : List CodePoint) : nest (s ++ outer) p = some (s' ++ outer) := by
  cases p with
  | point c =>
    cases s <;> simp only [nest, List.nil_append, List.cons_append] at h ⊢ <;> grind
  | literal | joint | lineEnd => simpa [nest] using h

/-- Brackets around a text do not matter to the ones inside it. -/
theorem nesting_append_right {s s' : List CodePoint} {ps : List Piece}
    (h : nesting s ps = some s') (outer : List CodePoint) :
    nesting (s ++ outer) ps = some (s' ++ outer) := by
  induction ps generalizing s with
  | nil =>
    cases h
    rfl
  | cons p ps ih =>
    obtain ⟨t, ht, hrest⟩ := Option.bind_eq_some_iff.mp h
    exact Option.bind_eq_some_iff.mpr ⟨t ++ outer, nest_append_right ht outer, ih hrest⟩

theorem bracketStep_of_nest {stack : List Bracket} {q : Located Piece} {s : List CodePoint}
    (h : nest (stack.map (·.point)) q.value = some s) :
    ∃ stack', bracketStep stack q = .ok stack' ∧ stack'.map (·.point) = s := by
  obtain ⟨n, p⟩ := q
  cases p with
  | point c =>
    cases stack <;> simp only [nest, bracketStep, List.map_nil, List.map_cons] at h ⊢ <;>
      split_ifs at h ⊢ <;> simp_all
  | literal | joint | lineEnd => exact ⟨stack, rfl, by simpa [nest] using h⟩

/-- The check of brackets follows the nesting of points; lines only serve its messages. -/
theorem foldlM_bracketStep_of_nesting {qs : List (Located Piece)} (stack : List Bracket)
    {s : List CodePoint} (h : nesting (stack.map (·.point)) (qs.map (·.value)) = some s) :
    ∃ stack', qs.foldlM bracketStep stack = .ok stack' ∧ stack'.map (·.point) = s := by
  induction qs generalizing stack with
  | nil => exact ⟨stack, rfl, Option.some.inj h⟩
  | cons q qs ih =>
    obtain ⟨t, ht, hrest⟩ := Option.bind_eq_some_iff.mp h
    obtain ⟨stack', hstep, rfl⟩ := bracketStep_of_nest ht
    obtain ⟨last, hlast, hpoints⟩ := ih stack' hrest
    refine ⟨last, ?_, hpoints⟩
    rw [List.foldlM_cons, hstep]
    exact hlast

theorem openBrackets_of_nesting {t : Text} (h : nesting [] (elements t) = some []) :
    openBrackets (scan t).pieces.reverse = .ok [] := by
  obtain ⟨stack, hstack, hpoints⟩ := foldlM_bracketStep_of_nesting [] h
  rw [List.map_eq_nil_iff.mp hpoints] at hstack
  exact hstack

/-! ## The same elements -/

/-- `PromptPieces ps`: the pieces of a prompt, which is one literal or a bracket around one literal
per line. -/
inductive PromptPieces : List Piece → Prop
  | plain : PromptPieces [.literal]
  | bracketed (count : Nat) : PromptPieces (bracketedLiterals 2 (count + 1))

def promptKey : List Piece := ("system_prompt=" : Text).map .point

/-- `SameElements ps qs`: the two programs are the same outside the contents of their literals,
except that behind `system_prompt=` each has a prompt of its own. -/
inductive SameElements : List Piece → List Piece → Prop
  | nil : SameElements [] []
  | cons (p : Piece) {ps qs : List Piece} : SameElements ps qs → SameElements (p :: ps) (p :: qs)
  | prompt {xs ys ps qs : List Piece} :
      PromptPieces xs → PromptPieces ys → SameElements ps qs →
      SameElements (promptKey ++ xs ++ ps) (promptKey ++ ys ++ qs)

theorem SameElements.refl (ps : List Piece) : SameElements ps ps := by
  induction ps with
  | nil => exact .nil
  | cons p _ ih => exact .cons p ih

theorem SameElements.append {ps qs ps' qs' : List Piece} (h : SameElements ps qs)
    (h' : SameElements ps' qs') : SameElements (ps ++ ps') (qs ++ qs') := by
  induction h with
  | nil => exact h'
  | cons p _ ih => exact .cons p ih
  | prompt hx hy _ ih => simpa [List.append_assoc] using SameElements.prompt hx hy ih

/-! ## Twins -/

/-- `Twins t u s e`: both texts begin and end in code, they have the same elements, and where the
brackets `s` are open before them, the brackets `e` are open behind them. -/
def Twins (t u : Text) (s e : List CodePoint) : Prop :=
  ∃ ps qs, Spells t ps ∧ Spells u qs ∧ SameElements ps qs ∧
    nesting s ps = some e ∧ nesting s qs = some e

namespace Twins

variable {t u t' u' : Text} {s m e : List CodePoint}

theorem nil : Twins [] [] s s := ⟨[], [], spells_nil, spells_nil, .nil, rfl, rfl⟩

theorem append (h : Twins t u s m) (h' : Twins t' u' m e) : Twins (t ++ t') (u ++ u') s e := by
  obtain ⟨ps, qs, hp, hq, hsame, hn, hm⟩ := h
  obtain ⟨ps', qs', hp', hq', hsame', hn', hm'⟩ := h'
  exact ⟨ps ++ ps', qs ++ qs', hp.append hp', hq.append hq', hsame.append hsame',
    nesting_append hn hn', nesting_append hm hm'⟩

/-- A text that is the same in both programs is its own twin as soon as it spells something. -/
theorem of_spells {ps : List Piece} (h : Spells t ps) (hn : nesting s ps = some e) :
    Twins t t s e :=
  ⟨ps, ps, h, h, .refl ps, hn, hn⟩

/-- Twins that close all brackets they open are closed: each ends in code, with no bracket open. -/
theorem closed (h : Twins t u [] []) (ht : t.isClean) :
    (scan t).mode = .code ∧ openBrackets (scan t).pieces.reverse = .ok [] := by
  obtain ⟨ps, _, hp, -, -, hn, -⟩ := h
  refine ⟨hp.mode_scan ht, openBrackets_of_nesting ?_⟩
  rwa [elements_of_spells hp ht]

theorem sameElements (h : Twins t u s e) (ht : t.isClean) (hu : u.isClean) :
    SameElements (elements t) (elements u) := by
  obtain ⟨ps, qs, hp, hq, hsame, -, -⟩ := h
  rwa [elements_of_spells hp ht, elements_of_spells hq hu]

end Twins

/-! ## Texts that are the same in both -/

/-- True of a text that begins and ends in code and takes the open brackets from `top` to `top'`. -/
def settles (t : Text) (top top' : List CodePoint) : Bool :=
  (Scanner.ofLines t).mode = .code && nesting top (lineElements t) = some top'

theorem twins_of_settles {t : Text} {top top' : List CodePoint} (h : settles t top top')
    (outer : List CodePoint) : Twins t t (top ++ outer) (top' ++ outer) := by
  simp only [settles, Bool.and_eq_true, decide_eq_true_eq] at h
  exact .of_spells (spells_of_ofLines h.1) (nesting_append_right h.2 outer)

/-- A text that opens and closes nothing on balance. -/
theorem twins_fixed {t : Text} (h : settles t [] []) {s : List CodePoint} : Twins t t s s :=
  twins_of_settles h s

theorem twins_opens {t : Text} {c : CodePoint} (h : settles t [] [c]) {s : List CodePoint} :
    Twins t t s (c :: s) :=
  twins_of_settles h s

theorem twins_closes {t : Text} {c : CodePoint} (h : settles t [c] []) {s : List CodePoint} :
    Twins t t (c :: s) s :=
  twins_of_settles h s

/-- True of a point that a scanner keeps as it is and that is no bracket. -/
def isInert (c : CodePoint) : Bool := isPlain c && (closing? c).isNone && !isClosing c

theorem nesting_of_isInert {t : Text} (h : ∀ c ∈ t, isInert c) (s : List CodePoint) :
    nesting s (t.map .point) = some s := by
  induction t with
  | nil => rfl
  | cons c t ih =>
    have hc := h c List.mem_cons_self
    simp only [isInert, Bool.and_eq_true, Option.isNone_iff_eq_none, Bool.not_eq_true'] at hc
    have step : nest s (.point c) = some s := by simp [nest, hc.1.2, hc.2]
    exact Option.bind_eq_some_iff.mpr ⟨s, step, ih fun d hd => h d (List.mem_cons_of_mem c hd)⟩

theorem twins_inert {t : Text} (h : ∀ c ∈ t, isInert c) {s : List CodePoint} : Twins t t s s := by
  refine .of_spells (spells_of_isPlain fun c hc => ?_) (nesting_of_isInert h s)
  have := h c hc
  simp only [isInert, Bool.and_eq_true] at this
  exact this.1.1

/-! ## Literals -/

theorem twins_literal_append (x y : Text) {t u : Text} {s e : List CodePoint}
    (ht : startsApart t) (hu : startsApart u) (h : Twins t u s e) :
    Twins (literal x ++ t) (literal y ++ u) s e := by
  obtain ⟨ps, qs, hp, hq, hsame, hn, hm⟩ := h
  exact ⟨.literal :: ps, .literal :: qs, spells_literal_append x ht hp,
    spells_literal_append y hu hq, .cons .literal hsame, hn, hm⟩

/-- A list of literals with commas between them. -/
theorem twins_join_literals (xs : List Text) {t : Text} {s e : List CodePoint} (ht : startsApart t)
    (h : Twins t t s e) :
    Twins (Text.join ", " (xs.map literal) ++ t) (Text.join ", " (xs.map literal) ++ t) s e := by
  induction xs with
  | nil => exact h
  | cons x xs ih =>
    cases xs with
    | nil => simpa [Text.join] using twins_literal_append x x ht ht h
    | cons y ys =>
      have more := twins_literal_append x x (u := ", " ++ (Text.join ", " ((y :: ys).map literal) ++ t))
        rfl rfl ((twins_fixed (by decide)).append ih)
      simpa [Text.join, List.intercalate_cons_cons, List.append_assoc] using more

theorem nesting_blanks_append (level : Nat) (ps : List Piece) (s : List CodePoint) :
    nesting s (blanks level ++ ps) = nesting s ps := by
  have inert : ∀ c ∈ indent level, isInert c := by
    intro c hc
    rw [List.eq_of_mem_replicate hc]
    decide
  rw [nesting, List.foldlM_append]
  have := nesting_of_isInert inert s
  rw [nesting] at this
  simp [blanks, this, nesting]

theorem twins_docstring (level : Nat) {xs ys : List Text} (hx : xs ≠ []) (hy : ys ≠ [])
    {s : List CodePoint} :
    Twins (Text.unlines (docstring (indent level) xs)) (Text.unlines (docstring (indent level) ys))
      s s := by
  have balanced : nesting s (blanks level ++ [.literal, .lineEnd]) = some s := by
    rw [nesting_blanks_append]
    rfl
  exact ⟨_, _, spells_docstring level hx, spells_docstring level hy, .refl _, balanced, balanced⟩

/-- A literal on several lines stands in brackets of its own, which are closed again. -/
theorem nesting_bracketedLiterals (level count : Nat) (s : List CodePoint) :
    nesting s (bracketedLiterals level count) = some s := by
  have inside : ∀ n, nesting (('(' : CodePoint) :: s)
      (List.replicate n (blanks (level + 1) ++ [.literal, .lineEnd])).flatten
        = some (('(' : CodePoint) :: s) := by
    intro n
    induction n with
    | zero => rfl
    | succ n ih =>
      rw [List.replicate_succ, List.flatten_cons]
      refine nesting_append ?_ ih
      rw [nesting_blanks_append]
      rfl
  have opened : nesting s [.point '(', .lineEnd] = some (('(' : CodePoint) :: s) := rfl
  have closed : nesting (('(' : CodePoint) :: s) (blanks level ++ [.point ')']) = some s := by
    rw [nesting_blanks_append]
    rfl
  rw [bracketedLiterals, List.append_assoc]
  exact nesting_append (nesting_append opened (inside count)) closed

theorem promptPieces_nesting {ps : List Piece} (h : PromptPieces ps) (s : List CodePoint) :
    nesting s ps = some s := by
  cases h with
  | plain => rfl
  | bracketed count => exact nesting_bracketedLiterals 2 (count + 1) s

/-- A prompt is spelled by pieces that do not tell what it says. -/
theorem spells_prompt (x : Text) :
    ∃ ps, PromptPieces ps ∧ ∀ (u : Text) (qs : List Piece), startsApart u → Spells u qs →
      Spells (multilineLiteral (indent 2) x ++ u) (ps ++ qs) := by
  by_cases hx : ('\n' : CodePoint) ∈ x
  · -- a text with a line break is cut into one literal at least
    have some : chunks x ≠ [] := chunks_ne_nil (List.ne_nil_of_mem hx)
    obtain ⟨c, cs, hcs⟩ := List.exists_cons_of_ne_nil some
    refine ⟨_, .bracketed cs.length, fun u qs _ hu => ?_⟩
    have := (spells_multilineLiteral 2 hx).append hu
    rwa [hcs] at this
  · refine ⟨[.literal], .plain, fun u qs hu hs => ?_⟩
    simpa [multilineLiteral, hx] using spells_literal_append x hu hs

/-- Two prompts are twins behind the name of their argument. -/
theorem twins_prompt (x y : Text) {t u : Text} {s e : List CodePoint} (ht : startsApart t)
    (hu : startsApart u) (h : Twins t u s e) :
    Twins ("system_prompt=" ++ (multilineLiteral (indent 2) x ++ t))
      ("system_prompt=" ++ (multilineLiteral (indent 2) y ++ u)) s e := by
  obtain ⟨ps, qs, hp, hq, hsame, hn, hm⟩ := h
  obtain ⟨xs, hxs, hx⟩ := spells_prompt x
  obtain ⟨ys, hys, hy⟩ := spells_prompt y
  have key : Spells "system_prompt=" promptKey := spells_of_isPlain (by decide)
  have keyNesting : ∀ s, nesting s promptKey = some s :=
    nesting_of_isInert (t := "system_prompt=") (by decide)
  refine ⟨promptKey ++ xs ++ ps, promptKey ++ ys ++ qs, ?_, ?_, .prompt hxs hys hsame,
    nesting_append (nesting_append (keyNesting s) (promptPieces_nesting hxs s)) hn,
    nesting_append (nesting_append (keyNesting s) (promptPieces_nesting hys s)) hm⟩
  · simpa [List.append_assoc] using key.append (hx t ps ht hp)
  · simpa [List.append_assoc] using key.append (hy u qs hu hq)

/-! ## Lines -/

theorem twins_newline {s : List CodePoint} : Twins "\n" "\n" s s := .of_spells spells_newline rfl

theorem twins_indent (level : Nat) {s : List CodePoint} : Twins (indent level) (indent level) s s :=
  .of_spells (spells_indent level) (by simpa [nesting] using nesting_blanks_append level [] s)

/-- A comment at a level of indentation, up to the end of its line. -/
theorem twins_comment (level : Nat) {t : Text} (h : ('\n' : CodePoint) ∉ t) {s : List CodePoint} :
    Twins (line level ("#" ++ t) ++ "\n") (line level ("#" ++ t) ++ "\n") s s := by
  rw [line, List.append_assoc]
  exact (twins_indent level).append (.of_spells (spells_comment h) rfl)

namespace Twins

variable {s m e : List CodePoint}

/-- Twin lines. -/
theorem line {t u : Text} (h : Twins t u s e) : Twins (t ++ "\n") (u ++ "\n") s e :=
  h.append twins_newline

theorem lines_singleton {t u : Text} (h : Twins (t ++ "\n") (u ++ "\n") s e) :
    Twins (Text.unlines [t]) (Text.unlines [u]) s e :=
  h.append .nil

theorem lines_cons {t u : Text} {ts us : List Text} (h : Twins (t ++ "\n") (u ++ "\n") s m)
    (h' : Twins (Text.unlines ts) (Text.unlines us) m e) :
    Twins (Text.unlines (t :: ts)) (Text.unlines (u :: us)) s e := by
  rw [Text.unlines_cons, Text.unlines_cons]
  exact h.append h'

theorem lines_append {ts us ts' us' : List Text} (h : Twins (Text.unlines ts) (Text.unlines us) s m)
    (h' : Twins (Text.unlines ts') (Text.unlines us') m e) :
    Twins (Text.unlines (ts ++ ts')) (Text.unlines (us ++ us')) s e := by
  rw [Text.unlines_append, Text.unlines_append]
  exact h.append h'

/-- Twin lines that leave the brackets as they are, behind such lines. -/
theorem lines_then {ts us ts' us' : List Text} (h : Twins (Text.unlines ts) (Text.unlines us) s s)
    (h' : Twins (Text.unlines ts') (Text.unlines us') s s) :
    Twins (Text.unlines (ts ++ ts')) (Text.unlines (us ++ us')) s s :=
  h.lines_append h'

theorem lines_flatMap {α β : Type} {R : α → β → Prop} {xs : List α} {ys : List β}
    {f : α → List Text} {g : β → List Text} (h : List.Forall₂ R xs ys)
    (hf : ∀ x y, R x y → Twins (Text.unlines (f x)) (Text.unlines (g y)) s s) :
    Twins (Text.unlines (xs.flatMap f)) (Text.unlines (ys.flatMap g)) s s := by
  induction h with
  | nil => exact .nil
  | cons hxy _ ih =>
    rw [List.flatMap_cons, List.flatMap_cons]
    exact (hf _ _ hxy).lines_append ih

theorem lines_map {α β : Type} {R : α → β → Prop} {xs : List α} {ys : List β}
    {f : α → Text} {g : β → Text} (h : List.Forall₂ R xs ys)
    (hf : ∀ x y, R x y → Twins (f x ++ "\n") (g y ++ "\n") s s) :
    Twins (Text.unlines (xs.map f)) (Text.unlines (ys.map g)) s s := by
  induction h with
  | nil => exact .nil
  | cons hxy _ ih => exact (hf _ _ hxy).lines_cons ih

end Twins

end Source

end AgentWorkflow
