import AgentWorkflow.Proofs.Source.Outline
import AgentWorkflow.Proofs.Source.Pieces
import AgentWorkflow.Source.Line
import Mathlib.Data.List.Forall2

/-!
# Lines of code

The lines that a check of the outline sees in the pieces of a program are those that a reader finds
in its leaves: as many, indented alike, with the tokens of the same contents. The number of a line
plays no part in this, so the pieces of a program are taken with whatever lines they have.

Results:
1. `passes_pieces`: leaves close the brackets that they open, and end no line inside of them.
2. `indentation_of_blank`, `tokens_of_blank`: the blanks around the content of a line.
3. `codeLines_of_pieces`: the lines of a program.
-/

namespace AgentWorkflow

namespace Source

/-! ## Brackets -/

/-- The number of open brackets behind pieces, none if a line ends on the way. -/
def passes (depth : Nat) (ps : List Piece) : Option Nat :=
  ps.foldlM (fun d p => if p = .lineEnd && d = 0 then none else some (p.depthAfter d)) depth

theorem passes_append {d d' : Nat} {ps : List Piece} (h : passes d ps = some d')
    (qs : List Piece) : passes d (ps ++ qs) = passes d' qs := by
  rw [passes, List.foldlM_append]
  change passes d ps >>= _ = _
  rw [h]
  rfl

theorem foldl_depthAfter_of_passes {ps : List Piece} {d d' : Nat} (h : passes d ps = some d') :
    ps.foldl (fun d p => p.depthAfter d) d = d' := by
  induction ps generalizing d with
  | nil => exact Option.some.inj h
  | cons p ps ih =>
    obtain ⟨next, step, rest⟩ := Option.bind_eq_some_iff.mp h
    dsimp only at step
    split at step
    · cases step
    · cases step
      exact ih rest

theorem passes_point (d : Nat) (c : CodePoint) :
    passes d [.point c] = some (Source.depthAfter d c) := rfl

theorem depthAfter_of_isBare {c : CodePoint} (h : isBare c) (d : Nat) :
    Source.depthAfter d c = d := by
  simp only [isBare, Bool.not_eq_true', Bool.or_eq_false_iff] at h
  simp [Source.depthAfter, h.1.2, h.2]

theorem depthAfter_opening {c : CodePoint} (h : (closing? c).isSome) (d : Nat) :
    Source.depthAfter d c = d + 1 := by
  simp [Source.depthAfter, h]

theorem depthAfter_closing {c : CodePoint} (h : (closing? c).isSome) (d : Nat) :
    Source.depthAfter (d + 1) ((closing? c).getD c) = d := by
  unfold closing? at h ⊢
  split_ifs at h ⊢
  · rfl
  · rfl
  · rfl
  · cases h

mutual

theorem passes_leaf (l : Leaf) (proper : l.isProper) (d : Nat)
    (inside : l.isLineEnd = false ∨ 0 < d) : passes d l.pieces = some d := by
  cases l with
  | point c => rw [Leaf.pieces, passes_point, depthAfter_of_isBare proper]
  | text t => rfl
  | lineEnd =>
    have deep : ¬d = 0 := by
      rcases inside with flat | deep
      · cases flat
      · omega
    simp [Leaf.pieces, passes, deep, Piece.depthAfter]
  | group c inner =>
    simp only [Leaf.isProper, Bool.and_eq_true] at proper
    rw [Leaf.pieces, ← List.singleton_append, passes_append (passes_point d c),
      depthAfter_opening proper.1,
      passes_append (passes_pieces inner proper.2 (d + 1) (.inr (Nat.succ_pos d))),
      passes_point, depthAfter_closing proper.1]
  | opened c => cases proper

/-- Leaves close all brackets that they open. -/
theorem passes_pieces (run : List Leaf) (proper : areProper run) (d : Nat)
    (inside : (∀ l ∈ run, l.isLineEnd = false) ∨ 0 < d) : passes d (pieces run) = some d := by
  cases run with
  | nil => rfl
  | cons l run =>
    simp only [areProper, Bool.and_eq_true] at proper
    have first : l.isLineEnd = false ∨ 0 < d :=
      inside.imp_left fun flat => flat l List.mem_cons_self
    rw [pieces, passes_append (passes_leaf l proper.1 d first)]
    exact passes_pieces run proper.2 d
      (inside.imp_left fun flat k hk => flat k (List.mem_cons_of_mem l hk))

end

/-! ## Logical lines -/

/-- Pieces that leave a bracket depth behind can be taken off the front of a program. -/
theorem logicalLines_append {d d' : Nat} {qs : List (Located Piece)}
    (h : passes d (qs.map (·.value)) = some d') (current rest : List (Located Piece)) :
    logicalLines d current (qs ++ rest) = logicalLines d' (qs.reverse ++ current) rest := by
  induction qs generalizing d current with
  | nil =>
    cases h
    rfl
  | cons q qs ih =>
    obtain ⟨next, step, h⟩ := Option.bind_eq_some_iff.mp h
    dsimp only at step
    split at step
    · cases step
    · next goesOn =>
      cases step
      rw [List.cons_append, logicalLines, if_neg goesOn, ih h]
      simp

/-! ## Blanks -/

def AreBlank (qs : List (Located Piece)) : Prop := ∀ q ∈ qs, q.value = .point ' '

/-- The blanks of a run on one line. -/
theorem areBlank_of_pieces {run : List Leaf} (blank : Blank run)
    (flat : ∀ l ∈ run, l.isLineEnd = false) {qs : List (Located Piece)}
    (h : qs.map (·.value) = pieces run) : AreBlank qs := by
  have points : ∀ p ∈ pieces run, p = .point ' ' := by
    clear h
    induction run with
    | nil => exact List.forall_mem_nil _
    | cons l run ih =>
      obtain ⟨hl, rest⟩ := List.forall_mem_cons.mp blank
      obtain ⟨level, flat⟩ := List.forall_mem_cons.mp flat
      refine List.forall_mem_append.mpr ⟨?_, ih rest flat⟩
      cases l with
      | point c =>
        have hc : c = ' ' := of_decide_eq_true hl
        exact List.forall_mem_singleton.mpr (hc ▸ rfl)
      | lineEnd => cases level
      | _ => cases hl
  intro q hq
  exact points _ (h ▸ List.mem_map_of_mem hq)

theorem TokenReader.read_blank {q : Located Piece} (h : q.value = .point ' ') (r : TokenReader) :
    r.read q = { r with isOpen := false } := by
  simp [TokenReader.read, h]

theorem TokenReader.foldl_read_blank {qs : List (Located Piece)} (h : AreBlank qs)
    (r : TokenReader) : (qs.foldl TokenReader.read r).tokens = r.tokens := by
  induction qs generalizing r with
  | nil => rfl
  | cons q qs ih =>
    obtain ⟨first, rest⟩ := List.forall_mem_cons.mp h
    rw [List.foldl_cons, ih rest, read_blank first]

theorem TokenReader.foldl_read_blank_start {qs : List (Located Piece)} (h : AreBlank qs) :
    qs.foldl TokenReader.read {} = {} := by
  induction qs with
  | nil => rfl
  | cons q qs ih =>
    obtain ⟨first, rest⟩ := List.forall_mem_cons.mp h
    rw [List.foldl_cons, read_blank first]
    exact ih rest

/-- The blanks around a line make no tokens. -/
theorem tokens_of_blank {pre qs post : List (Located Piece)} (hpre : AreBlank pre)
    (hpost : AreBlank post) : tokens (pre ++ (qs ++ post)) = tokens qs := by
  rw [tokens, List.foldl_append, List.foldl_append, TokenReader.foldl_read_blank_start hpre,
    TokenReader.foldl_read_blank hpost]
  rfl

/-- The blanks in front of a line are its indentation. -/
theorem indentation_of_blank {pre qs : List (Located Piece)} (hpre : AreBlank pre)
    {q : Located Piece} (stops : ∀ m : Margin, m.step? q.value = none) :
    indentation {} (pre ++ q :: qs) = pre.length := by
  have from_column : ∀ n, indentation { column := n } (pre ++ q :: qs) = n + pre.length := by
    induction pre with
    | nil =>
      intro n
      simp [indentation, stops]
    | cons b pre ih =>
      intro n
      obtain ⟨first, rest⟩ := List.forall_mem_cons.mp hpre
      have step : Margin.step? { column := n } b.value = some { column := n + 1 } := by
        simp [Margin.step?, first]
      rw [List.cons_append, indentation, step]
      simp only [ih rest, List.length_cons]
      omega
  simpa using from_column 0

/-! ## Contents -/

theorem TokenReader.readPoint_ne_nil (r : TokenReader) (n : Nat) (c : CodePoint) :
    (r.readPoint n c).tokens ≠ [] := by
  unfold TokenReader.readPoint
  split
  · split <;> exact List.cons_ne_nil _ _
  · exact List.cons_ne_nil _ _

theorem TokenReader.read_ne_nil {r : TokenReader} (h : r.tokens ≠ []) (q : Located Piece) :
    (r.read q).tokens ≠ [] := by
  unfold TokenReader.read
  split
  · split
    · exact h
    · exact r.readPoint_ne_nil _ _
  · exact List.cons_ne_nil _ _
  · exact h
  · exact h

theorem TokenReader.foldl_read_ne_nil {r : TokenReader} (h : r.tokens ≠ [])
    (qs : List (Located Piece)) : (qs.foldl TokenReader.read r).tokens ≠ [] := by
  induction qs generalizing r with
  | nil => exact h
  | cons q qs ih => exact ih (read_ne_nil h q)

/-- A piece that ends the indentation and belongs to a token. -/
structure Piece.IsVisible (p : Piece) : Prop where
  stops : ∀ m : Margin, m.step? p = none
  read : ∀ (r : TokenReader) (n : Nat), (r.read ⟨n, p⟩).tokens ≠ []

theorem isVisible_point {c : CodePoint} (h : 0x20 < c.val) : Piece.IsVisible (.point c) := by
  have apart : ∀ d : CodePoint, d.val ≤ 0x20 → c ≠ d := by
    rintro d hd rfl
    omega
  have blank := apart ' ' (by decide)
  have tab := apart '\t' (by decide)
  have feed := apart '\x0c' (by decide)
  constructor
  · intro m
    simp [Margin.step?, blank, tab, feed]
  · intro r n
    simpa [TokenReader.read, blank, tab, feed] using r.readPoint_ne_nil n c

theorem isVisible_literal : Piece.IsVisible .literal :=
  ⟨fun _ => rfl, fun _ _ => List.cons_ne_nil _ _⟩

theorem lt_val_of_opening {c : CodePoint} (h : (closing? c).isSome) : 0x20 < c.val := by
  unfold closing? at h
  split_ifs at h with h₁ h₂ h₃
  · subst h₁
    decide
  · subst h₂
    decide
  · subst h₃
    decide
  · cases h

theorem lt_val_of_isBare {c : CodePoint} (h : isBare c) (other : c ≠ ' ') : 0x20 < c.val := by
  simp only [isBare, Bool.not_eq_true', Bool.or_eq_false_iff, decide_eq_false_iff_not] at h
  have printable : ¬c.val < 0x20 := h.1.1.2
  have space : c.val ≠ 0x20 := by
    obtain ⟨v, hv⟩ := c
    rintro (rfl : v = 0x20)
    exact other rfl
  omega

/-- A leaf that is not blank begins with a visible piece. -/
theorem exists_visible {l : Leaf} (proper : l.isProper) (h : l.isBlank = false) :
    ∃ p more, l.pieces = p :: more ∧ p.IsVisible := by
  cases l with
  | point c =>
    have other : c ≠ ' ' := of_decide_eq_false h
    exact ⟨_, _, rfl, isVisible_point (lt_val_of_isBare proper other)⟩
  | text t => exact ⟨_, _, rfl, isVisible_literal⟩
  | group c inner =>
    simp only [Leaf.isProper, Bool.and_eq_true] at proper
    exact ⟨_, _, rfl, isVisible_point (lt_val_of_opening proper.1)⟩
  | opened c => cases proper
  | lineEnd => cases h

/-- `IsOf c l`: the line of code `c` has the indentation of the line `l`, and the tokens of its
content, which begins with no blank, is closed and holds no line end. -/
structure CodeLine.IsOf (c : CodeLine) (l : Line) : Prop where
  indentation : c.indentation = l.indentation
  starts : Starts l.content
  proper : areProper l.content
  flat : ∀ k ∈ l.content, k.isLineEnd = false
  tokens : ∃ qs : List (Located Piece), qs.map (·.value) = pieces l.content ∧
    c.tokens = Source.tokens qs

/-- A run is its content with blanks around it. -/
theorem exists_trimRun (run : List Leaf) : ∃ post, Blank post ∧
    run = run.takeWhile (·.isBlank) ++ (trimRun run ++ post) := by
  refine ⟨(run.dropWhile (·.isBlank)).rtakeWhile (·.isBlank),
    fun l hl => List.mem_rtakeWhile_imp hl, ?_⟩
  rw [trimRun, List.rdropWhile_append_rtakeWhile, List.takeWhile_append_dropWhile]

/-- A content does not begin with a blank. -/
theorem isBlank_head_trimRun {run rest : List Leaf} {l : Leaf} (h : trimRun run = l :: rest) :
    l.isBlank = false := by
  obtain ⟨more, front⟩ : (l :: rest) <+: run.dropWhile (·.isBlank) :=
    h ▸ List.rdropWhile_prefix _ _
  have visible := List.head?_dropWhile_not (·.isBlank) run
  rw [← front] at visible
  simpa using visible

theorem length_pieces_of_blank {run : List Leaf} (h : Blank run) :
    (pieces run).length = run.length := by
  induction run with
  | nil => rfl
  | cons l run ih =>
    obtain ⟨hl, rest⟩ := List.forall_mem_cons.mp h
    have one : l.pieces.length = 1 := by
      cases l with
      | point | lineEnd => rfl
      | _ => cases hl
    rw [pieces, List.length_append, one, ih rest, List.length_cons, Nat.add_comm]

/-- A line without a line end in it. -/
theorem codeLine_of_flat {run : List Leaf} (proper : areProper run)
    (flat : ∀ l ∈ run, l.isLineEnd = false) {qs : List (Located Piece)}
    (h : qs.map (·.value) = pieces run) :
    List.Forall₂ CodeLine.IsOf
      ([CodeLine.mk (indentation {} qs) (tokens qs)].filter fun c => !c.tokens.isEmpty)
      (line? run).toList := by
  obtain ⟨post, hpost, shape⟩ := exists_trimRun run
  have hpre : Blank (run.takeWhile (·.isBlank)) := fun l hl => List.mem_takeWhile_imp hl
  -- the pieces of the blanks in front, of the content, and of the blanks behind
  have parts : qs.map (·.value) = pieces (run.takeWhile (·.isBlank))
      ++ (pieces (trimRun run) ++ pieces post) := by
    rw [h, ← pieces_append, ← pieces_append, ← shape]
  obtain ⟨pre, rest, rfl, pre_eq, rest_eq⟩ := List.map_eq_append_iff.mp parts
  obtain ⟨mid, back, rfl, mid_eq, back_eq⟩ := List.map_eq_append_iff.mp rest_eq
  have level : ∀ l ∈ run.takeWhile (·.isBlank) ++ (trimRun run ++ post), l.isLineEnd = false :=
    shape ▸ flat
  obtain ⟨levelPre, levelRest⟩ := List.forall_mem_append.mp level
  have blankPre := areBlank_of_pieces hpre levelPre pre_eq
  have blankBack := areBlank_of_pieces hpost (List.forall_mem_append.mp levelRest).2 back_eq
  rw [tokens_of_blank blankPre blankBack]
  cases content : trimRun run with
  | nil =>
    rw [content] at mid_eq
    obtain rfl := List.map_eq_nil_iff.mp mid_eq
    have none : line? run = none := by simp [line?, content]
    rw [none]
    exact .nil
  | cons l more =>
    rw [content] at mid_eq
    have closed : l.isProper := areProper_iff.mp proper l (by rw [shape, content]; simp)
    obtain ⟨p, others, first, visible⟩ := exists_visible closed (isBlank_head_trimRun content)
    rw [pieces, first, List.cons_append] at mid_eq
    obtain ⟨q, mid, rfl, rfl, mid_eq⟩ := List.map_eq_cons_iff.mp mid_eq
    have column : indentation {} (pre ++ (q :: mid ++ back))
        = (run.takeWhile (·.isBlank)).length := by
      rw [List.cons_append, indentation_of_blank blankPre visible.stops,
        ← length_pieces_of_blank hpre, ← pre_eq, List.length_map]
    have some_token : (tokens (q :: mid)).isEmpty = false := by
      have kept := TokenReader.foldl_read_ne_nil (visible.read {} q.line) mid
      simpa [tokens] using kept
    have one : line? run = some ⟨(run.takeWhile (·.isBlank)).length, l :: more⟩ := by
      simp [line?, content]
    rw [one, column, List.filter_cons_of_pos (by simp [some_token])]
    have inside : ∀ k ∈ l :: more, k ∈ run := by
      intro k hk
      rw [shape, content]
      exact List.mem_append_right _ (List.mem_append_left _ hk)
    have properContent : areProper (l :: more) := areProper_iff.mpr fun k hk =>
      areProper_iff.mp proper k (inside k hk)
    refine .cons ⟨rfl, ⟨l, more, rfl, isBlank_head_trimRun content⟩, properContent,
      fun k hk => flat k (inside k hk), q :: mid, ?_, rfl⟩ .nil
    simp [pieces, first, mid_eq]

/-! ## Programs -/

theorem codeLines_append_lineEnd {front rest : List (Located Piece)} {q : Located Piece}
    (inside : passes 0 (front.map (·.value)) = some 0) (ends : q.value = .lineEnd) :
    codeLines (front ++ q :: rest)
      = ([CodeLine.mk (indentation {} front) (tokens front)].filter fun c => !c.tokens.isEmpty)
        ++ codeLines rest := by
  have cut : logicalLines 0 [] (front ++ q :: rest) = front :: logicalLines 0 [] rest := by
    rw [logicalLines_append inside, logicalLines]
    simp [ends]
  simp only [codeLines, cut, List.map_cons]
  rw [← List.singleton_append, List.filter_append]

theorem codeLines_of_passes {qs : List (Located Piece)}
    (inside : passes 0 (qs.map (·.value)) = some 0) :
    codeLines qs
      = [CodeLine.mk (indentation {} qs) (tokens qs)].filter fun c => !c.tokens.isEmpty := by
  have cut := logicalLines_append inside [] []
  rw [List.append_nil, List.append_nil] at cut
  simp only [codeLines, cut, logicalLines]
  cases qs with
  | nil => rfl
  | cons q qs => simp

/-- The lines of code of a program stand for the lines of its leaves, one for one. -/
theorem codeLines_of_pieces {leaves : List Leaf} (proper : areProper leaves)
    {qs : List (Located Piece)} (h : qs.map (·.value) = pieces leaves) :
    List.Forall₂ CodeLine.IsOf (codeLines qs) (linesOf leaves) := by
  -- `run` is the beginning of a line that is still being read
  have step : ∀ (run : List Leaf) (qs : List (Located Piece)),
      (∀ l ∈ run, l.isLineEnd = false) → areProper (run ++ leaves) →
      qs.map (·.value) = pieces (run ++ leaves) →
      List.Forall₂ CodeLine.IsOf (codeLines qs) (linesOf (run ++ leaves)) := by
    clear h proper
    induction leaves with
    | nil =>
      intro run qs flat proper h
      rw [List.append_nil] at proper h ⊢
      rw [codeLines_of_passes (h ▸ passes_pieces run proper 0 (.inl flat)), linesOf_of_flat flat]
      exact codeLine_of_flat proper flat h
    | cons l leaves ih =>
      intro run qs flat proper h
      cases ended : l.isLineEnd with
      | true =>
        obtain rfl : l = .lineEnd := by cases l <;> simp_all [Leaf.isLineEnd]
        rw [pieces_append, pieces] at h
        obtain ⟨front, rest, rfl, front_eq, rest_eq⟩ := List.map_eq_append_iff.mp h
        obtain ⟨q, rest, rfl, ends, rest_eq⟩ := List.map_eq_cons_iff.mp rest_eq
        obtain ⟨properRun, properRest⟩ :=
          List.forall_mem_append.mp (areProper_iff.mp proper)
        have properRun := areProper_iff.mpr properRun
        rw [codeLines_append_lineEnd (front_eq ▸ passes_pieces run properRun 0 (.inl flat)) ends,
          linesOf_append_cons, linesOf_of_flat flat]
        refine List.rel_append (codeLine_of_flat properRun flat front_eq) ?_
        exact ih [] rest (List.forall_mem_nil _)
          (areProper_iff.mpr (List.forall_mem_cons.mp properRest).2) rest_eq
      | false =>
        have shift : run ++ l :: leaves = (run ++ [l]) ++ leaves := by simp
        rw [shift] at proper h ⊢
        exact ih _ qs (List.forall_mem_append.mpr ⟨flat, List.forall_mem_singleton.mpr ended⟩)
          proper h
  exact step [] qs (List.forall_mem_nil _) proper h

end Source

end AgentWorkflow
