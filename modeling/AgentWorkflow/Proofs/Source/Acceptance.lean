import AgentWorkflow.Proofs.Source.LineEnds
import AgentWorkflow.Proofs.Source.Statements
import AgentWorkflow.Proofs.Source.Twins

/-!
# Programs without faults

The check of a program keeps account of the blocks around a line, and of these only the indentations
count. A part of a program that begins at the margin and ends behind whole blocks can stand behind
any other such part, so a program that is put together from sound parts has no fault.

Results:
1. `nesting_pieces`: closed leaves leave no bracket open.
2. `layoutFault?_of_run?`: sound lines that can be placed one after the other have no fault.
3. `stands_line`, `stands_block`, `Stands.append`: where lines can stand.
4. `Parses.append`, `syntaxFault?_of_parses`: programs from sound parts.
-/

namespace AgentWorkflow

namespace Source

/-! ## Brackets -/

theorem nesting_singleton {s s' : List CodePoint} {p : Piece} (h : nest s p = some s') :
    nesting s [p] = some s' := by
  rw [nesting, List.foldlM_cons, h]
  rfl

mutual

theorem nesting_leaf (l : Leaf) (proper : l.isProper) (s : List CodePoint) :
    nesting s l.pieces = some s := by
  cases l with
  | point c =>
    simp only [Leaf.isProper, isBare, Bool.not_eq_true', Bool.or_eq_false_iff] at proper
    exact nesting_singleton (by simp [nest, proper.1.2, proper.2])
  | text t => exact nesting_singleton rfl
  | lineEnd => exact nesting_singleton rfl
  | group c inner =>
    simp only [Leaf.isProper, Bool.and_eq_true] at proper
    obtain ⟨d, pair, opens, closes⟩ := exists_closing proper.1
    have opening : nest s (.point c) = some (c :: s) := by simp [nest, pair]
    have closing : nest (c :: s) (.point d) = some s := by simp [nest, pair, opens, closes]
    rw [Leaf.pieces, ← List.singleton_append, pair, Option.getD_some]
    exact nesting_append (nesting_singleton opening)
      (nesting_append (nesting_pieces inner proper.2 (c :: s)) (nesting_singleton closing))
  | opened c => cases proper

/-- Closed leaves leave no bracket open. -/
theorem nesting_pieces (run : List Leaf) (proper : areProper run) (s : List CodePoint) :
    nesting s (pieces run) = some s := by
  cases run with
  | nil => rfl
  | cons l run =>
    simp only [areProper, Bool.and_eq_true] at proper
    exact nesting_append (nesting_leaf l proper.1 s) (nesting_pieces run proper.2 s)

end

/-! ## Layout -/

/-- Where a line stands: the indentations of the blocks around it, the innermost first, and whether
it has to begin a block. -/
structure Place where
  levels : List Nat := [0]
  expects : Bool := false
deriving DecidableEq

namespace Place

/-- The place behind a line, none if the line cannot stand there. -/
def step? (s : Place) (l : Line) : Option Place :=
  if s.expects then
    if l.indentation ≤ s.levels.headD 0 then none else some ⟨l.indentation :: s.levels, l.opens⟩
  else
    let outer := s.levels.dropWhile (l.indentation < ·)
    if s.levels.headD 0 < l.indentation || outer.headD 0 ≠ l.indentation then none
    else some ⟨outer, l.opens⟩

def run? (s : Place) (ls : List Line) : Option Place := ls.foldlM step? s

theorem run?_append {s s' : Place} {ls : List Line} (h : s.run? ls = some s') (ks : List Line) :
    s.run? (ls ++ ks) = s'.run? ks := by
  rw [run?, List.foldlM_append]
  change s.run? ls >>= _ = _
  rw [h]
  rfl

/-- The place is behind whole blocks, so a line at the margin can follow. -/
structure IsOutside (s : Place) : Prop where
  expects : s.expects = false
  margin : s.levels.dropWhile (0 < ·) = [0]

end Place

/-- Sound lines that can be placed one after the other have no fault. -/
theorem layoutFault?_of_run? {cs : List CodeLine} {ls : List Line}
    (h : List.Forall₂ CodeLine.IsOf cs ls) (sound : ∀ l ∈ ls, l.isSound) {levels : List Nat}
    {header : Option CodeLine} {s : Place} (placed : Place.run? ⟨levels, header.isSome⟩ ls = some s)
    (whole : s.expects = false) : layoutFault? levels header cs = none := by
  induction h generalizing levels header with
  | nil =>
    cases placed
    cases header with
    | none => rfl
    | some h => cases whole
  | @cons c l cs ls isOf _ ih =>
    obtain ⟨soundLine, rest⟩ := List.forall_mem_cons.mp sound
    obtain ⟨fine, opens⟩ := CodeLine.fault?_of_isOf isOf soundLine
    obtain ⟨next, step, placed⟩ := Option.bind_eq_some_iff.mp placed
    have opened : (if c.opensBlock then some c else none).isSome = l.opens := by
      rw [opens]
      cases l.opens <;> rfl
    cases header with
    | some h =>
      simp only [Place.step?, Option.isSome_some, if_true] at step
      split at step
      · cases step
      · next deeper =>
        cases step
        simp only [layoutFault?, isOf.indentation, if_neg deeper, fine]
        exact ih rest (opened.symm ▸ placed)
    | none =>
      simp only [Place.step?, Option.isSome_none, Bool.false_eq_true, if_false] at step
      split at step
      · cases step
      · next fits =>
        cases step
        simp only [Bool.or_eq_true, decide_eq_true_eq, not_or, not_not] at fits
        simp only [layoutFault?, isOf.indentation, if_neg fits.1, fits.2, fine,
          ne_eq, not_true_eq_false, if_false]
        exact ih rest (opened.symm ▸ placed)

/-! ## Parts of a program -/

/-- `Stands ls`: the lines can follow whole blocks, and are whole blocks themselves. -/
def Stands (ls : List Line) : Prop :=
  ∀ s : Place, s.IsOutside → ∃ s', s.run? ls = some s' ∧ s'.IsOutside

theorem stands_nil : Stands [] := fun s h => ⟨s, rfl, h⟩

theorem Stands.append {ls ks : List Line} (h : Stands ls) (h' : Stands ks) : Stands (ls ++ ks) := by
  intro s hs
  obtain ⟨s', placed, outside⟩ := h s hs
  rw [Place.run?_append placed]
  exact h' s' outside

/-- Whatever blocks stand in front of it, a line at the margin is outside of them. -/
theorem step?_of_isOutside {s : Place} (h : s.IsOutside) {l : Line} (margin : l.indentation = 0) :
    s.step? l = some ⟨[0], l.opens⟩ := by
  have shallow : ¬s.levels.headD 0 < l.indentation := by omega
  simp [Place.step?, h.expects, margin, h.margin]

/-- A run of lines stands by itself if it begins at the margin and ends outside of every block. -/
theorem stands_of_atMargin {ls : List Line} (margin : ls.head?.all (·.indentation = 0)) {s : Place}
    (placed : Place.run? {} ls = some s) (outside : s.IsOutside) : Stands ls := by
  intro s' hs'
  cases ls with
  | nil => exact ⟨s', rfl, hs'⟩
  | cons l ls =>
    have margin : l.indentation = 0 := by simpa using margin
    have start : Place.IsOutside {} := ⟨rfl, rfl⟩
    refine ⟨s, ?_, outside⟩
    rw [← placed, Place.run?, Place.run?, List.foldlM_cons, List.foldlM_cons,
      step?_of_isOutside hs' margin, step?_of_isOutside start margin]

/-- A line at the margin that opens no block. -/
theorem stands_line {l : Line} (margin : l.indentation = 0) (plain : l.Plain) : Stands [l] := by
  intro s hs
  refine ⟨⟨[0], false⟩, ?_, rfl, rfl⟩
  rw [Place.run?, List.foldlM_cons, step?_of_isOutside hs margin, plain.closed]
  rfl

theorem run?_body {body : List Line} (h : ∀ k ∈ body, k.indentation = 4 ∧ k.Plain) :
    Place.run? ⟨[4, 0], false⟩ body = some ⟨[4, 0], false⟩ := by
  induction body with
  | nil => rfl
  | cons k body ih =>
    obtain ⟨⟨level, plain⟩, rest⟩ := List.forall_mem_cons.mp h
    have step : Place.step? ⟨[4, 0], false⟩ k = some ⟨[4, 0], false⟩ := by
      simp [Place.step?, level, plain.closed]
    rw [Place.run?, List.foldlM_cons, step]
    exact ih rest

/-- A header at the margin and its block. -/
theorem stands_block {head : Line} {body : List Line} (margin : head.indentation = 0)
    (opens : head.opens) (some_line : body ≠ [])
    (h : ∀ k ∈ body, k.indentation = 4 ∧ k.Plain) : Stands (head :: body) := by
  intro s hs
  refine ⟨⟨[4, 0], false⟩, ?_, rfl, rfl⟩
  cases body with
  | nil => exact absurd rfl some_line
  | cons k body =>
    obtain ⟨⟨level, plain⟩, rest⟩ := List.forall_mem_cons.mp h
    have first : Place.step? ⟨[0], true⟩ k = some ⟨[4, 0], false⟩ := by
      simp [Place.step?, level, plain.closed]
    rw [Place.run?, List.foldlM_cons, step?_of_isOutside hs margin, opens]
    change Place.step? ⟨[0], true⟩ k >>= _ = _
    rw [first]
    exact run?_body rest

/-- A block that has no fault: a plain line, or a header with plain lines behind it. -/
inductive Block.Sound : Block → Prop
  | line {head : List Leaf} (plain : Line.Plain ⟨0, head⟩) : Sound ⟨head, []⟩
  | block {head : List Leaf} {body : List Line} (sound : Line.isSound ⟨0, head⟩)
    (opens : Line.opens ⟨0, head⟩) (some_line : body ≠ [])
    (each : ∀ k ∈ body, k.indentation = 4 ∧ k.Plain) : Sound ⟨head, body⟩

theorem Block.Sound.stands {b : Block} (h : b.Sound) : Stands b.lines := by
  cases h with
  | line plain => exact stands_line rfl plain
  | block sound opens some_line each => exact stands_block rfl opens some_line each

theorem Block.Sound.isSound {b : Block} (h : b.Sound) : ∀ l ∈ b.lines, l.isSound := by
  cases h with
  | line plain => exact List.forall_mem_singleton.mpr plain.sound
  | block sound _ _ each =>
    exact List.forall_mem_cons.mpr ⟨sound, fun k hk => (each k hk).2.sound⟩

theorem stands_flatMap {α : Type} {f : α → List Line} {xs : List α} (h : ∀ x ∈ xs, Stands (f x)) :
    Stands (xs.flatMap f) := by
  induction xs with
  | nil => exact stands_nil
  | cons x xs ih =>
    exact (h x List.mem_cons_self).append (ih fun y hy => h y (List.mem_cons_of_mem x hy))

/-- `Parses t`: the text is made of whole lines, all sound, that can stand behind whole blocks, and
has no carriage return and no zero. -/
structure Parses (t : Text) : Prop where
  lines : ∃ ls, Lays t ls ∧ (∀ l ∈ ls, l.isSound) ∧ Stands ls
  clean : t.isClean

theorem parses_nil : Parses [] := ⟨⟨[], lays_nil, nofun, stands_nil⟩, rfl⟩

theorem Parses.append {t u : Text} (h : Parses t) (h' : Parses u) : Parses (t ++ u) := by
  obtain ⟨⟨ls, lays, sound, stands⟩, clean⟩ := h
  obtain ⟨⟨ks, lays', sound', stands'⟩, clean'⟩ := h'
  exact ⟨⟨ls ++ ks, lays.append lays', List.forall_mem_append.mpr ⟨sound, sound'⟩,
    stands.append stands'⟩, by rw [Text.isClean_append, clean, clean', Bool.and_true]⟩

theorem Parses.unlines {texts more : List Text} (h : Parses (Text.unlines texts))
    (h' : Parses (Text.unlines more)) : Parses (Text.unlines (texts ++ more)) := by
  rw [Text.unlines_append]
  exact h.append h'

theorem parses_flatMap {α : Type} {f : α → List Text} {xs : List α}
    (h : ∀ x ∈ xs, Parses (Text.unlines (f x))) : Parses (Text.unlines (xs.flatMap f)) := by
  induction xs with
  | nil => exact parses_nil
  | cons x xs ih =>
    exact (h x List.mem_cons_self).unlines (ih fun y hy => h y (List.mem_cons_of_mem x hy))

/-- A text that shows sound blocks. -/
theorem parses_of_shows {t : Text} {bs : List Block} (h : Shows blocks t bs)
    (sound : ∀ b ∈ bs, b.Sound) (clean : t.isClean) : Parses t := by
  obtain ⟨ls, lays, margin, rfl⟩ := h
  have lines := flatMap_lines_blocks margin
  refine ⟨⟨ls, lays, fun l hl => ?_, ?_⟩, clean⟩
  · rw [← lines] at hl
    obtain ⟨b, hb, hl⟩ := List.mem_flatMap.mp hl
    exact (sound b hb).isSound l hl
  · rw [← lines]
    exact stands_flatMap fun b hb => (sound b hb).stands

/-- True of a text that is the same in every program and parses. -/
def isParsable (t : Text) : Bool :=
  isLaid t && (layout t).all (·.isSound) && (layout t).head?.all (·.indentation = 0)
    && ((Place.run? {} (layout t)).any fun s => !s.expects && s.levels.dropWhile (0 < ·) = [0])
    && t.isClean

theorem parses_of_isParsable {t : Text} (h : isParsable t) : Parses t := by
  simp only [isParsable, Bool.and_eq_true] at h
  obtain ⟨⟨⟨⟨laid, sound⟩, margin⟩, placed⟩, clean⟩ := h
  cases run : Place.run? {} (layout t) with
  | none =>
    rw [run] at placed
    cases placed
  | some s =>
    rw [run] at placed
    simp only [Option.any_some, Bool.and_eq_true, Bool.not_eq_true', decide_eq_true_eq] at placed
    exact ⟨⟨layout t, lays_of_isLaid laid, List.all_eq_true.mp sound,
      stands_of_atMargin margin run ⟨placed.1, placed.2⟩⟩, clean⟩

/-! ## Programs -/

/-- A line end behind the last line of a program changes none of its lines. -/
theorem Parses.endLastLine {t : Text} (h : Parses t) : Parses t.endLastLine := by
  have newline : Parses "\n" := parses_of_isParsable (by decide)
  dsimp only [Text.endLastLine]
  split
  · exact h
  · exact h.append newline

/-- A program that is put together from sound parts has no fault. -/
theorem syntaxFault?_of_parses {t : Text} (h : Parses t) : syntaxFault? t = none := by
  have ended := h.endLastLine
  obtain ⟨⟨ls, ⟨leaves, reads, -, rfl⟩, sound, stands⟩, clean⟩ := ended
  have spells := spells_of_reads reads
  have proper := areProper_of_reads reads
  obtain ⟨s, placed, outside⟩ := stands {} ⟨rfl, rfl⟩
  rw [syntaxFault?]
  generalize t.endLastLine = program at spells clean
  have brackets : openBrackets (scan program).pieces.reverse = .ok [] :=
    openBrackets_of_nesting (by
      rw [elements_of_spells spells clean]
      exact nesting_pieces leaves proper [])
  have scanned : (scan program).fault? = none := by
    rw [Scanner.fault?, spells.mode_scan clean]
  have lines : layoutFault? [0] none (codeLines (scan program).pieces.reverse) = none :=
    layoutFault?_of_run? (codeLines_of_pieces proper (elements_of_spells spells clean)) sound placed
      outside.expects
  simp only [brackets, scanned, lines]
  rfl

end Source

end AgentWorkflow
