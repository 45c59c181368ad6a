import AgentWorkflow.Proofs.Source.CodeLines
import AgentWorkflow.Proofs.Source.Tokens

/-!
# Sound lines

The check of a program looks at the tokens of its lines. What it asks of a line can be said of the
leaves of the line: no bracket begins with a colon or a comma, the last leaf waits for nothing, and
the line ends with a colon exactly if its first word is one of a header. A line of which this is
true is sound, and its tokens have no fault.

Results:
1. `calm_pieces`: calm leaves have calm pieces.
2. `isHeader_of_isOf`, `closes_of_isOf`: the first word of a line and its end.
3. `fault?_of_isOf`: a sound line has no fault, and opens a block where its leaves say so.
-/

namespace AgentWorkflow

namespace Source

/-! ## Calm leaves -/

theorem exists_closing {c : CodePoint} (h : (closing? c).isSome) :
    ∃ d, closing? c = some d ∧ closing? d = none ∧ isClosing d := by
  unfold closing? at h
  split_ifs at h with h₁ h₂ h₃
  · subst h₁
    exact ⟨')', rfl, rfl, rfl⟩
  · subst h₂
    exact ⟨']', rfl, rfl, rfl⟩
  · subst h₃
    exact ⟨'\x7d', rfl, rfl, rfl⟩
  · cases h

/-- True of a run that begins with a colon or a comma. -/
def beginsBroken (run : List Leaf) : Bool :=
  (run.find? (!·.isBlank)).any fun l => l.isSign ':' || l.isSign ','

mutual

/-- True of a leaf in which no statement ends and no strict bracket begins with a colon or a
comma. -/
def Leaf.isCalm : Leaf → Bool
  | .point c => c ≠ ';'
  | .group c inner => !(isStrict c && beginsBroken inner) && areCalm inner
  | _ => true

/-- True of calm leaves. -/
def areCalm : List Leaf → Bool
  | [] => true
  | l :: run => l.isCalm && areCalm run

end

theorem areCalm_iff {run : List Leaf} : areCalm run ↔ ∀ l ∈ run, l.isCalm := by
  induction run with
  | nil => simp [areCalm]
  | cons l run ih => simp [areCalm, ih]

theorem isGap_of_lt {c : CodePoint} (h : 0x20 < c.val) : Piece.isGap (.point c) = false := by
  have apart : ∀ d : CodePoint, d.val ≤ 0x20 → c ≠ d := by
    rintro d hd rfl
    omega
  simp [Piece.isGap, apart ' ' (by decide), apart '\t' (by decide), apart '\x0c' (by decide)]

theorem isGap_of_isBlank {l : Leaf} (h : l.isBlank) : ∃ p, l.pieces = [p] ∧ p.isGap := by
  cases l with
  | point c =>
    have blank : c = ' ' := of_decide_eq_true h
    exact ⟨_, rfl, by simp [Piece.isGap, blank]⟩
  | lineEnd => exact ⟨_, rfl, rfl⟩
  | _ => cases h

theorem not_isStrict_of_isBare {c : CodePoint} (h : isBare c) : isStrict c = false := by
  have apart : ∀ d : CodePoint, isBare d = false → c ≠ d := by
    rintro d hd rfl
    rw [hd] at h
    cases h
  simp [isStrict, apart '(' (by decide), apart '\x7b' (by decide)]

theorem calmAfter_opening {c : CodePoint} (h : (closing? c).isSome) (strict : Bool) :
    calmAfter strict (.point c) = some (isStrict c) := by
  unfold closing? at h
  split_ifs at h with h₁ h₂ h₃
  · subst h₁
    cases strict <;> rfl
  · subst h₂
    cases strict <;> rfl
  · subst h₃
    cases strict <;> rfl
  · cases h

theorem calmAfter_closing {c : CodePoint} (h : isClosing c) (strict : Bool) :
    calmAfter strict (.point c) = some false := by
  simp only [isClosing, Bool.or_eq_true, decide_eq_true_eq] at h
  obtain (rfl | rfl) | rfl := h <;> cases strict <;> rfl

mutual

/-- Behind a calm leaf that is not blank, no bracket has just been opened. -/
theorem calm_leaf (l : Leaf) (proper : l.isProper) (quiet : l.isCalm) (visible : l.isBlank = false)
    (strict : Bool) (fine : strict → (l.isSign ':' || l.isSign ',') = false) :
    calm strict l.pieces = some false := by
  cases l with
  | point c =>
    have other : c ≠ ' ' := of_decide_eq_false visible
    have ended : c ≠ ';' := of_decide_eq_true quiet
    rw [Leaf.pieces, calm_singleton, calmAfter_point (isGap_of_lt (lt_val_of_isBare proper other)),
      not_isStrict_of_isBare proper, if_neg]
    cases strict with
    | true => simpa [ended, isBreak, Leaf.isSign] using fine rfl
    | false => simp [ended]
  | text t => exact calm_singleton strict .literal
  | group c inner =>
    simp only [Leaf.isProper, Bool.and_eq_true] at proper
    simp only [Leaf.isCalm, Bool.and_eq_true, Bool.not_eq_true', Bool.and_eq_false_iff] at quiet
    obtain ⟨d, pair, -, closes⟩ := exists_closing proper.1
    obtain ⟨last, inside⟩ :=
      calm_pieces inner proper.2 quiet.2 (isStrict c) (by simpa using quiet.1)
    rw [Leaf.pieces, ← List.singleton_append, calm_append, calm_singleton,
      calmAfter_opening proper.1, Option.bind_some, calm_append, inside, pair]
    exact (calm_singleton last _).trans (calmAfter_closing closes last)
  | opened c => cases proper
  | lineEnd => cases visible

/-- Calm leaves are calm, behind a strict bracket if they do not begin with a colon or a comma. -/
theorem calm_pieces (run : List Leaf) (proper : areProper run) (quiet : areCalm run) (strict : Bool)
    (fine : strict = false ∨ beginsBroken run = false) :
    ∃ last, calm strict (pieces run) = some last := by
  cases run with
  | nil => exact ⟨strict, rfl⟩
  | cons l run =>
    simp only [areProper, Bool.and_eq_true] at proper
    simp only [areCalm, Bool.and_eq_true] at quiet
    rw [pieces, calm_append]
    cases blank : l.isBlank with
    | true =>
      obtain ⟨p, one, gap⟩ := isGap_of_isBlank blank
      rw [one, calm_singleton, calmAfter_of_isGap gap]
      refine calm_pieces run proper.2 quiet.2 strict (fine.imp_right fun begins => ?_)
      simpa [beginsBroken, blank] using begins
    | false =>
      rw [calm_leaf l proper.1 quiet.1 blank strict]
      · exact calm_pieces run proper.2 quiet.2 false (.inl rfl)
      · rintro rfl
        simpa [beginsBroken, blank] using fine

end

/-! ## Lines -/

/-- True of a leaf behind which a statement can end. -/
def Leaf.isRest : Leaf → Bool
  | .point c => Piece.isRest (.point c)
  | .text _ | .group .. => true
  | .opened _ | .lineEnd => false

def Line.word (l : Line) : Text := (takePoints CodePoint.isWordPoint l.content).1

def Line.opens (l : Line) : Bool := l.content.getLast?.any (·.isSign ':')

/-- True of a line in which nothing is misplaced, behind which a statement can end, and that ends
with a colon exactly if its first word is one of a header. -/
def Line.isSound (l : Line) : Bool :=
  areCalm l.content && l.content.getLast?.any (·.isRest) && headerWords.contains l.word == l.opens

theorem isRest_of_isClosing {c : CodePoint} (h : isClosing c) :
    Piece.isRest (.point c) ∧ c ≠ ':' := by
  simp only [isClosing, Bool.or_eq_true, decide_eq_true_eq] at h
  obtain (rfl | rfl) | rfl := h <;> decide

/-- The last piece of a leaf behind which a statement can end. -/
theorem exists_last_piece {l : Leaf} (proper : l.isProper) (h : l.isRest) :
    ∃ front p, l.pieces = front ++ [p] ∧ p.isRest ∧ (p = .point ':' ↔ l.isSign ':') := by
  cases l with
  | point c => exact ⟨[], _, rfl, h, by simp [Leaf.isSign]⟩
  | text t => exact ⟨[], .literal, rfl, rfl, by simp [Leaf.isSign]⟩
  | group c inner =>
    simp only [Leaf.isProper, Bool.and_eq_true] at proper
    obtain ⟨d, pair, -, closes⟩ := exists_closing proper.1
    obtain ⟨rests, colon⟩ := isRest_of_isClosing closes
    exact ⟨.point c :: pieces inner, .point d, by simp [Leaf.pieces, pair], rests,
      by simp [Leaf.isSign, colon]⟩
  | opened c => cases h
  | lineEnd => cases h

/-- What is taken, what is left, and that nothing more could be taken. -/
theorem takePoints_spec (p : CodePoint → Bool) (run : List Leaf) :
    run = (takePoints p run).1.map .point ++ (takePoints p run).2 ∧
      (∀ c ∈ (takePoints p run).1, p c) ∧ Stops p (takePoints p run).2 := by
  induction run with
  | nil => exact ⟨rfl, List.forall_mem_nil _, stops_nil p⟩
  | cons l run ih =>
    cases l with
    | point c =>
      obtain ⟨shape, points, stops⟩ := ih
      cases hc : p c with
      | true =>
        simp only [takePoints, hc, if_true]
        exact ⟨congrArg _ shape, List.forall_mem_cons.mpr ⟨hc, points⟩, stops⟩
      | false =>
        simp only [takePoints, hc, Bool.false_eq_true, if_false]
        exact ⟨rfl, List.forall_mem_nil _, stops_point hc⟩
    | _ => exact ⟨rfl, List.forall_mem_nil _, by rintro _ _ ⟨⟩⟩

theorem not_isWordPoint_of_isSome {c : CodePoint} (h : (closing? c).isSome) :
    c.isWordPoint = false := by
  unfold closing? at h
  split_ifs at h with h₁ h₂ h₃
  · subst h₁
    rfl
  · subst h₂
    rfl
  · subst h₃
    rfl
  · cases h

/-- What stands behind a word does not begin with a point of a word. -/
theorem head?_pieces_of_stops {run : List Leaf} (proper : areProper run)
    (stops : Stops CodePoint.isWordPoint run) :
    ∀ c, (pieces run).head? = some (.point c) → c.isWordPoint = false := by
  intro c first
  cases run with
  | nil => cases first
  | cons l run =>
    rw [areProper, Bool.and_eq_true] at proper
    cases l with
    | point d =>
      cases first
      exact stops _ run rfl
    | group d inner =>
      cases first
      have opening := proper.1
      rw [Leaf.isProper, Bool.and_eq_true] at opening
      exact not_isWordPoint_of_isSome opening.1
    | opened d => cases proper.1
    | text | lineEnd => cases first

namespace CodeLine

variable {c : CodeLine} {l : Line}

theorem word_of_head {w : Text} (h : c.tokens.head?.map (·.value) = some (.word w)) :
    c.word = w := by
  unfold word
  cases tokens : c.tokens with
  | nil => simp [tokens] at h
  | cons t rest =>
    rw [tokens] at h
    obtain ⟨n, value⟩ := t
    cases h
    rfl

theorem word_of_wordless (h : Wordless c.tokens) : c.word = [] := by
  obtain ⟨t, rest, tokens, plain⟩ := h
  unfold word
  rw [tokens]
  split
  · next w _ same =>
    cases same
    exact absurd rfl (plain w)
  · rfl

theorem isGap_of_isVisible {p : Piece} (h : p.IsVisible) : p.isGap = false := by
  cases gap : p.isGap with
  | false => rfl
  | true =>
    have some_token := h.read {} 0
    cases p with
    | point d =>
      simp only [Piece.isGap, Bool.or_eq_true, decide_eq_true_eq, Piece.point.injEq, reduceCtorEq,
        false_or] at gap
      obtain (rfl | rfl) | rfl := gap <;> exact absurd rfl some_token
    | literal => cases gap
    | joint | lineEnd => exact absurd rfl some_token

theorem word_of_isOf (h : c.IsOf l) (other : ∀ d, (pieces l.content).head? = some (.point d) →
    d.isDigit ∨ d.isWordPoint = false) : c.word = [] := by
  obtain ⟨qs, values, same⟩ := h.tokens
  obtain ⟨k, rest, content, unblank⟩ := h.starts
  have closed : k.isProper := areProper_iff.mp h.proper k (content ▸ List.mem_cons_self)
  obtain ⟨p, more, first, visible⟩ := exists_visible closed unblank
  rw [content, pieces, first, List.cons_append] at values other
  obtain ⟨q, qs, rfl, rfl, -⟩ := List.map_eq_cons_iff.mp values
  refine word_of_wordless ?_
  rw [same]
  exact wordless_tokens (isGap_of_isVisible visible)
    (fun d point => other d (congrArg some point)) qs

theorem not_headerWord_of_isDigit {d : CodePoint} (h : d.isDigit) (t : Text) :
    headerWords.contains (d :: t) = false := by
  have letters : ∀ w ∈ headerWords, ∀ e ∈ w.head?, e.isDigit = false := by decide
  refine Bool.eq_false_iff.mpr fun listed => ?_
  have letter := letters _ (List.contains_iff_mem.mp listed) d rfl
  rw [letter] at h
  cases h

/-- A line of code is a header if its first word is one of a header. -/
theorem isHeader_of_isOf (h : c.IsOf l) : c.isHeader = headerWords.contains l.word := by
  obtain ⟨shape, points, stops⟩ := takePoints_spec CodePoint.isWordPoint l.content
  have word : l.word = (takePoints CodePoint.isWordPoint l.content).1 := rfl
  generalize (takePoints CodePoint.isWordPoint l.content).2 = rest at shape stops
  rw [← word] at shape points
  have proper : areProper rest := areProper_iff.mpr fun k hk =>
    areProper_iff.mp h.proper k (shape ▸ List.mem_append_right _ hk)
  have spelled : pieces l.content = l.word.map .point ++ pieces rest := by
    rw [← pieces_points, ← pieces_append, ← shape]
  cases begun : l.word with
  | nil =>
    have none := word_of_isOf h fun d first => .inr <|
      head?_pieces_of_stops proper stops d (by rwa [spelled, begun] at first)
    rw [isHeader, none]
  | cons d t =>
    rw [begun] at spelled points
    cases digit : d.isDigit with
    | true =>
      have none := word_of_isOf h fun e first => .inl <| by
        rw [spelled] at first
        cases first
        exact digit
      rw [isHeader, none, not_headerWord_of_isDigit digit]
      rfl
    | false =>
      obtain ⟨qs, values, same⟩ := h.tokens
      have first := head_word_tokens (values.trans spelled) points digit
        (head?_pieces_of_stops proper stops)
      rw [← same] at first
      rw [isHeader, word_of_head first]

/-- The end of a line of code. -/
theorem closes_of_isOf (h : c.IsOf l) (ends : l.content.getLast?.any (·.isRest)) :
    dangling? c.tokens = none ∧
      (c.tokens.getLast?.map (·.value) = some (.sign ':') ↔ l.opens) := by
  obtain ⟨qs, values, same⟩ := h.tokens
  cases last : l.content.getLast? with
  | none =>
    rw [last] at ends
    cases ends
  | some k =>
    rw [last] at ends
    have opens : l.opens = k.isSign ':' := by rw [Line.opens, last, Option.any_some]
    obtain ⟨run, content⟩ := List.getLast?_eq_some_iff.mp last
    have proper : k.isProper := areProper_iff.mp h.proper k (by simp [content])
    obtain ⟨front, p, shape, rests, colon⟩ := exists_last_piece proper ends
    have split : qs.map (·.value) = (pieces run ++ front) ++ [p] := by
      rw [values, content, pieces_append, pieces, pieces, shape, List.append_nil, List.append_assoc]
    obtain ⟨qs, back, rfl, -, behind⟩ := List.map_eq_append_iff.mp split
    obtain ⟨q, rfl, rfl⟩ := List.map_eq_singleton_iff.mp behind
    have closes := closes_tokens qs rests
    rw [same, opens]
    exact ⟨closes.rests, closes.colon.trans colon⟩

/-- A sound line has no fault, and opens a block where its leaves say so. -/
theorem fault?_of_isOf (h : c.IsOf l) (sound : l.isSound) :
    c.fault? = none ∧ c.opensBlock = l.opens := by
  simp only [Line.isSound, Bool.and_eq_true, beq_iff_eq] at sound
  obtain ⟨⟨quiet, ends⟩, header⟩ := sound
  obtain ⟨qs, values, same⟩ := h.tokens
  have header := (isHeader_of_isOf h).trans header
  obtain ⟨rests, colon⟩ := closes_of_isOf h ends
  have depth : depthBehind c.tokens = 0 := by
    rw [same, depthBehind_tokens, values]
    exact foldl_depthAfter_of_passes (passes_pieces l.content h.proper 0 (.inl h.flat))
  obtain ⟨last, calm⟩ := calm_pieces l.content h.proper quiet false (.inl rfl)
  have calm : Calm c.tokens last := same ▸ calm_tokens (values ▸ calm)
  have closed : c.isClosed := decide_eq_true depth
  have opens : c.opensBlock = l.opens := by
    rw [opensBlock, closed, Bool.and_true, Bool.eq_iff_iff, decide_eq_true_iff]
    exact colon
  have single : (statements 0 [] c.tokens).findSome? dangling? = none := by
    rw [statements_of_forall calm.single]
    simp [rests]
  have hasColon : l.opens → hasColon 0 c.tokens := fun opens =>
    hasColon_of_last (colon.mpr opens) depth
  refine ⟨?_, opens⟩
  simp only [fault?, calm.placed, closed, single, opens, header]
  cases ended : l.opens with
  | true => simp [hasColon ended]
  | false => simp

end CodeLine

end Source

end AgentWorkflow
