import AgentWorkflow.Proofs.Source.Pieces
import AgentWorkflow.Source.Syntax
import Mathlib.Data.List.Induction

/-!
# The tokens of pieces

A token is made of points that stand side by side. What a check of a line asks of its tokens is
told by its pieces: the tokens open and close the same brackets, no bracket begins with a colon or a
comma unless one does among the pieces, the last token is the sign or the end of the word that the
last piece is, and the first is the word that the line begins with.

Results:
1. `grows_tokens`: what one more piece does to the tokens.
2. `depthBehind_tokens`, `calm_tokens`: the brackets, and what stands behind them.
3. `closes_tokens`: the last token.
4. `head_word_tokens`, `wordless_tokens`: the first token.
-/

namespace AgentWorkflow

namespace Source

/-! ## One point -/

/-- True of a point that is always a token of its own. -/
def isMark (c : CodePoint) : Bool := !(c.isWordPoint || c = '.' || c = '+' || c = '-')

theorem not_isDigit_of_not_isWordPoint {c : CodePoint} (h : c.isWordPoint = false) :
    c.isDigit = false := by
  simp only [CodePoint.isWordPoint, CodePoint.isAlnum, Bool.or_eq_false_iff] at h
  exact h.1.1.2

theorem ofPoint_of_isMark {c : CodePoint} (h : isMark c) : Token.ofPoint c = .sign c := by
  simp only [isMark, Bool.not_eq_true', Bool.or_eq_false_iff, decide_eq_false_iff_not] at h
  obtain ⟨⟨⟨word, point⟩, -⟩, -⟩ := h
  simp [Token.ofPoint, word, point, not_isDigit_of_not_isWordPoint word]

theorem extend?_of_isMark {c : CodePoint} (h : isMark c) (t : Token) : t.extend? c = none := by
  simp only [isMark, Bool.not_eq_true', Bool.or_eq_false_iff, decide_eq_false_iff_not] at h
  obtain ⟨⟨⟨word, point⟩, plus⟩, minus⟩ := h
  cases t with
  | word | dots => simp [Token.extend?, word, point, not_isDigit_of_not_isWordPoint word]
  | number stage => simp [Token.extend?, NumberStage.extend?, word, point, plus, minus]
  | literal | sign => rfl

theorem depthAfter_of_not_isMark {c : CodePoint} (h : isMark c = false) (d : Nat) :
    Source.depthAfter d c = d := by
  have other : ∀ e : CodePoint, isMark e → c ≠ e := by
    rintro e he rfl
    rw [h] at he
    cases he
  simp [Source.depthAfter, closing?, isClosing, other '(' rfl, other ')' rfl, other '[' rfl,
    other ']' rfl, other '\x7b' rfl, other '\x7d' rfl]

/-- A token that is a sign is one point. -/
theorem eq_of_ofPoint {c d : CodePoint} (h : Token.ofPoint c = .sign d) : d = c := by
  unfold Token.ofPoint at h
  split_ifs at h
  cases h
  rfl

/-- Signs and literals do not grow. -/
theorem extend?_spec {t more : Token} {c : CodePoint} (h : t.extend? c = some more) :
    (∀ d, t ≠ .sign d) ∧ ∀ d, more ≠ .sign d := by
  cases t with
  | sign | literal => cases h
  | word spelling =>
    simp only [Token.extend?] at h
    split at h <;> cases h
    exact ⟨nofun, nofun⟩
  | number stage =>
    obtain ⟨next, -, rfl⟩ := Option.map_eq_some_iff.mp h
    exact ⟨nofun, nofun⟩
  | dots count =>
    simp only [Token.extend?] at h
    split_ifs at h <;> cases h <;> exact ⟨nofun, nofun⟩


theorem depthAfter_ofPoint (d : Nat) (c : CodePoint) :
    (Token.ofPoint c).depthAfter d = Source.depthAfter d c := by
  cases mark : isMark c with
  | true => rw [ofPoint_of_isMark mark, Token.depthAfter]
  | false =>
    rw [depthAfter_of_not_isMark mark]
    cases begun : Token.ofPoint c with
    | sign e => rw [Token.depthAfter, eq_of_ofPoint begun, depthAfter_of_not_isMark mark]
    | _ => rfl

theorem depthAfter_of_not_sign {t : Token} (h : ∀ d, t ≠ .sign d) (d : Nat) :
    t.depthAfter d = d := by
  cases t with
  | sign c => exact absurd rfl (h c)
  | _ => rfl

/-! ## One piece -/

/-- True of a piece that ends a token and is part of none. -/
def Piece.isGap (p : Piece) : Bool :=
  p = .joint || p = .lineEnd || p = .point ' ' || p = .point '\t' || p = .point '\x0c'

/-- `Grows ts q us`: behind the piece `q`, the tokens `ts` have become `us`. -/
inductive Grows (ts : List (Located Token)) (q : Located Piece) : List (Located Token) → Prop
  | skips (gap : q.value.isGap) : Grows ts q ts
  | quotes (h : q.value = .literal) : Grows ts q (ts ++ [⟨q.line, .literal⟩])
  | begins {c : CodePoint} (h : q.value = .point c) (visible : q.value.isGap = false) :
    Grows ts q (ts ++ [⟨q.line, .ofPoint c⟩])
  | lengthens {front : List (Located Token)} {t : Located Token} {c : CodePoint} {more : Token}
    (h : q.value = .point c) (last : ts = front ++ [t]) (grown : t.value.extend? c = some more) :
    Grows ts q (front ++ [⟨t.line, more⟩])

/-- A point makes the last token longer or begins one. No token is taken back. -/
theorem grows_readPoint (r : TokenReader) {q : Located Piece} {c : CodePoint}
    (h : q.value = .point c) (visible : q.value.isGap = false) :
    Grows r.tokens.reverse q (r.readPoint q.line c).tokens.reverse := by
  have begins : Grows r.tokens.reverse q (r.push q.line (.ofPoint c) true).tokens.reverse := by
    rw [TokenReader.push, List.reverse_cons]
    exact .begins h visible
  obtain ⟨ts, isOpen⟩ := r
  unfold TokenReader.readPoint
  split
  · next t rest _ last =>
    split
    · next grown =>
      rw [List.reverse_cons]
      refine .lengthens h ?_ grown
      dsimp only at last ⊢
      rw [last, List.reverse_cons]
    · exact begins
  · exact begins

theorem grows_read (r : TokenReader) (q : Located Piece) :
    Grows r.tokens.reverse q (r.read q).tokens.reverse := by
  obtain ⟨n, p⟩ := q
  cases p with
  | point c =>
    simp only [TokenReader.read]
    split
    · next gap => exact .skips (by simpa [Piece.isGap, or_assoc] using gap)
    · next visible =>
      refine grows_readPoint r (q := ⟨n, .point c⟩) rfl ?_
      simpa [Piece.isGap, and_assoc] using visible
  | literal =>
    rw [TokenReader.read, TokenReader.push, List.reverse_cons]
    exact .quotes rfl
  | joint | lineEnd => exact .skips rfl

theorem tokens_concat (qs : List (Located Piece)) (q : Located Piece) :
    tokens (qs ++ [q]) = ((qs.foldl TokenReader.read {}).read q).tokens.reverse := by
  rw [tokens, List.foldl_append, List.foldl_cons, List.foldl_nil]

/-- One more piece belongs to no token, begins one, or makes the last one longer. -/
theorem grows_tokens (qs : List (Located Piece)) (q : Located Piece) :
    Grows (tokens qs) q (tokens (qs ++ [q])) := by
  rw [tokens_concat]
  exact grows_read _ q

/-! ## Brackets -/

theorem depthAfter_of_isGap {p : Piece} (h : p.isGap) (d : Nat) : p.depthAfter d = d := by
  cases p with
  | point c =>
    simp only [Piece.isGap, Bool.or_eq_true, decide_eq_true_eq, Piece.point.injEq, reduceCtorEq,
      false_or] at h
    obtain (rfl | rfl) | rfl := h <;> rfl
  | _ => rfl

/-- The number of open brackets behind tokens. -/
def depthBehind (ts : List (Located Token)) : Nat := ts.foldl (fun d t => t.value.depthAfter d) 0

theorem depthBehind_concat (ts : List (Located Token)) (t : Located Token) :
    depthBehind (ts ++ [t]) = t.value.depthAfter (depthBehind ts) := by
  rw [depthBehind, List.foldl_append]
  rfl

/-- The tokens open and close the brackets that their pieces do. -/
theorem depthBehind_tokens (qs : List (Located Piece)) :
    depthBehind (tokens qs) = (qs.map (·.value)).foldl (fun d p => p.depthAfter d) 0 := by
  induction qs using List.reverseRecOn with
  | nil => rfl
  | append_singleton qs q ih =>
    rw [List.map_append, List.foldl_append, ← ih, List.map_singleton, List.foldl_cons,
      List.foldl_nil]
    have grows := grows_tokens qs q
    generalize tokens (qs ++ [q]) = ts at grows ⊢
    cases grows with
    | skips gap => rw [depthAfter_of_isGap gap]
    | quotes h =>
      rw [depthBehind_concat, h]
      rfl
    | begins h => rw [depthBehind_concat, h, depthAfter_ofPoint, Piece.depthAfter]
    | @lengthens front t c more h last grown =>
      have unmarked : isMark c = false := by
        cases mark : isMark c with
        | true => exact absurd grown (by simp [extend?_of_isMark mark])
        | false => rfl
      obtain ⟨before, behind⟩ := extend?_spec grown
      rw [last, depthBehind_concat, depthBehind_concat, h, Piece.depthAfter,
        depthAfter_of_not_sign before, depthAfter_of_not_sign behind,
        depthAfter_of_not_isMark unmarked]

/-! ## What stands behind a bracket -/

/-- True of a bracket behind which no colon or comma can stand. -/
def isStrict (c : CodePoint) : Bool := c = '(' || c = '\x7b'

def isBreak (c : CodePoint) : Bool := c = ':' || c = ','

/-- Whether the last piece is a strict bracket, behind one more piece; none if a colon or a comma
stands behind a strict bracket, or a statement ends. -/
def calmAfter (strict : Bool) (p : Piece) : Option Bool :=
  if p.isGap then some strict
  else match p with
    | .point c => if c = ';' || (strict && isBreak c) then none else some (isStrict c)
    | _ => some false

/-- Whether the last of some pieces is a strict bracket. -/
def calm (strict : Bool) (ps : List Piece) : Option Bool := ps.foldlM calmAfter strict

theorem calmAfter_of_isGap {p : Piece} (h : p.isGap) (strict : Bool) :
    calmAfter strict p = some strict := if_pos h

theorem calmAfter_point {c : CodePoint} (h : Piece.isGap (.point c) = false) (strict : Bool) :
    calmAfter strict (.point c)
      = if c = ';' || (strict && isBreak c) then none else some (isStrict c) := by
  simp [calmAfter, h]

theorem calm_append (strict : Bool) (ps qs : List Piece) :
    calm strict (ps ++ qs) = (calm strict ps).bind (calm · qs) := List.foldlM_append

theorem calm_singleton (strict : Bool) (p : Piece) : calm strict [p] = calmAfter strict p := by
  rw [calm, List.foldlM_cons]
  exact bind_pure _

/-- `Calm ts strict`: behind no strict bracket stands a colon or a comma, no statement ends among
the tokens, and if the last one is a strict bracket, `strict` says so. -/
structure Calm (ts : List (Located Token)) (strict : Bool) : Prop where
  placed : misplaced? ts = none
  single : ∀ t ∈ ts, t.value ≠ .sign ';'
  last : ∀ t ∈ ts.getLast?, ∀ c, t.value = .sign c → isStrict c → strict

/-- Two tokens are looked at together, so a token more can be wrong only behind the last one. -/
theorem misplaced?_concat {ts : List (Located Token)} (h : misplaced? ts = none)
    {t : Located Token} (placed : ∀ s ∈ ts.getLast?, ∀ c d, s.value = .sign c → isStrict c →
      t.value = .sign d → isBreak d = false) : misplaced? (ts ++ [t]) = none := by
  induction ts with
  | nil => rfl
  | cons s ts ih =>
    cases ts with
    | nil =>
      simp only [List.singleton_append, misplaced?]
      split
      · next clash =>
        simp only [Bool.and_eq_true, Bool.or_eq_true, decide_eq_true_eq] at clash
        obtain ⟨opened | opened, broken | broken⟩ := clash
        all_goals cases placed s rfl _ _ opened rfl broken
      · rfl
    | cons next ts =>
      simp only [List.cons_append, misplaced?] at h ⊢
      split at h
      · cases h
      · next fine =>
        rw [if_neg fine]
        exact ih h fun s hs => placed s (by simpa using hs)

theorem Calm.concat {ts : List (Located Token)} {strict strict' : Bool} (h : Calm ts strict)
    {t : Located Token} (sign : ∀ c, t.value = .sign c →
      c ≠ ';' ∧ (strict → isBreak c = false) ∧ (isStrict c → strict')) :
    Calm (ts ++ [t]) strict' where
  placed := misplaced?_concat h.placed fun s hs c d opened strict behind =>
    (sign d behind).2.1 (h.last s hs c opened strict)
  single := List.forall_mem_append.mpr
    ⟨h.single, List.forall_mem_singleton.mpr fun ended => (sign _ ended).1 rfl⟩
  last := by
    intro s hs c signed strict
    rw [List.getLast?_concat] at hs
    cases hs
    exact (sign c signed).2.2 strict

theorem misplaced?_of_append {ts us : List (Located Token)} (h : misplaced? (ts ++ us) = none) :
    misplaced? ts = none := by
  induction ts with
  | nil => rfl
  | cons s ts ih =>
    cases ts with
    | nil => rfl
    | cons next ts =>
      simp only [List.cons_append, misplaced?] at h ⊢
      split at h
      · cases h
      · next fine =>
        rw [if_neg fine]
        exact ih h

theorem Calm.front {ts us : List (Located Token)} {strict : Bool} (h : Calm (ts ++ us) strict) :
    Calm ts true where
  placed := misplaced?_of_append h.placed
  single t ht := h.single t (List.mem_append_left us ht)
  last _ _ _ _ _ := rfl

/-- Tokens are calm where their pieces are. -/
theorem calm_tokens {qs : List (Located Piece)} {strict : Bool}
    (h : calm false (qs.map (·.value)) = some strict) : Calm (tokens qs) strict := by
  induction qs using List.reverseRecOn generalizing strict with
  | nil => exact ⟨rfl, nofun, nofun⟩
  | append_singleton qs q ih =>
    rw [List.map_append, calm_append] at h
    obtain ⟨before, front, after⟩ := Option.bind_eq_some_iff.mp h
    rw [List.map_singleton, calm_singleton] at after
    have ts := ih front
    have grows := grows_tokens qs q
    generalize tokens (qs ++ [q]) = us at grows ⊢
    cases grows with
    | skips gap =>
      rw [calmAfter_of_isGap gap] at after
      cases after
      exact ts
    | quotes quoted => exact ts.concat nofun
    | @begins c h visible =>
      rw [h] at after visible
      rw [calmAfter_point visible] at after
      split at after
      · cases after
      · next fine =>
        cases after
        simp only [Bool.or_eq_true, decide_eq_true_eq, Bool.and_eq_true, not_or, not_and,
          Bool.not_eq_true] at fine
        refine ts.concat fun d sign => ?_
        obtain rfl := eq_of_ofPoint sign
        exact ⟨fine.1, fine.2, id⟩
    | @lengthens front t c more h last grown =>
      have sign := (extend?_spec grown).2
      rw [last] at ts
      exact ts.front.concat fun d signed => absurd signed (sign d)

theorem statements_of_forall {ts : List (Located Token)} (h : ∀ t ∈ ts, t.value ≠ .sign ';')
    (depth : Nat) (current : List (Located Token)) :
    statements depth current ts = [current.reverse ++ ts] := by
  induction ts generalizing depth current with
  | nil => rw [statements, List.append_nil]
  | cons t ts ih =>
    obtain ⟨first, rest⟩ := List.forall_mem_cons.mp h
    rw [statements, if_neg (by simp [first]), ih rest]
    simp

/-! ## The last token -/

/-- True of a piece behind which a statement can end. -/
def Piece.isRest : Piece → Bool
  | .point c => !Piece.isGap (.point c) && c ≠ '.' && !operators.contains c
  | .literal => true
  | .joint | .lineEnd => false

theorem waits_ofPoint {c : CodePoint} (h : Piece.isRest (.point c)) (before : Option Token) :
    (Token.ofPoint c).waits before = false := by
  simp only [Piece.isRest, Bool.and_eq_true, Bool.not_eq_true', decide_eq_true_eq] at h
  obtain ⟨⟨-, dot⟩, plain⟩ := h
  unfold Token.ofPoint
  split_ifs
  · rfl
  · rfl
  · rw [Token.waits, plain, Bool.false_and]

theorem waits_of_extend? {t more : Token} {c : CodePoint} (h : t.extend? c = some more)
    (dot : c ≠ '.') (before : Option Token) : more.waits before = false := by
  cases t with
  | sign | literal => cases h
  | word spelling =>
    simp only [Token.extend?] at h
    split at h <;> cases h
    rfl
  | number stage =>
    obtain ⟨next, -, rfl⟩ := Option.map_eq_some_iff.mp h
    rfl
  | dots count =>
    simp only [Token.extend?, if_neg dot] at h
    split at h <;> cases h
    rfl

/-- `Closes ts p`: the last token waits for nothing, and is a colon if the piece `p` is one. -/
structure Closes (ts : List (Located Token)) (p : Piece) : Prop where
  rests : dangling? ts = none
  colon : ts.getLast?.map (·.value) = some (.sign ':') ↔ p = .point ':'

theorem closes_concat {ts : List (Located Token)} {t : Located Token} {p : Piece}
    (rests : ∀ before, t.value.waits before = false)
    (colon : t.value = .sign ':' ↔ p = .point ':') : Closes (ts ++ [t]) p := by
  refine ⟨?_, by simpa using colon⟩
  simp [dangling?, rests]

/-- The last token is what the last piece makes it. -/
theorem closes_tokens (qs : List (Located Piece)) {q : Located Piece} (h : q.value.isRest) :
    Closes (tokens (qs ++ [q])) q.value := by
  have grows := grows_tokens qs q
  generalize tokens (qs ++ [q]) = us at grows ⊢
  cases grows with
  | skips gap =>
    exfalso
    revert h gap
    cases q.value <;> simp +contextual [Piece.isRest, Piece.isGap]
  | quotes quoted => exact closes_concat (fun _ => rfl) (by simp [quoted])
  | @begins c point visible =>
    rw [point] at h ⊢
    refine closes_concat (waits_ofPoint h) ?_
    constructor
    · intro sign
      rw [eq_of_ofPoint sign]
    · rintro ⟨⟩
      rfl
  | @lengthens front t c more point last grown =>
    rw [point] at h ⊢
    simp only [Piece.isRest, Bool.and_eq_true, decide_eq_true_eq] at h
    refine closes_concat (waits_of_extend? grown h.1.2) ?_
    refine iff_of_false ((extend?_spec grown).2 _) ?_
    rintro ⟨⟩
    rw [extend?_of_isMark (by decide)] at grown
    cases grown

/-- A line that ends with a colon outside brackets has one. -/
theorem hasColon_of_last {ts : List (Located Token)} {d : Nat}
    (last : ts.getLast?.map (·.value) = some (.sign ':'))
    (outside : ts.foldl (fun d t => t.value.depthAfter d) d = 0) : hasColon d ts := by
  induction ts generalizing d with
  | nil => cases last
  | cons t ts ih =>
    rw [hasColon, Bool.or_eq_true]
    cases ts with
    | nil =>
      refine .inl ?_
      have colon : t.value = .sign ':' := Option.some.inj last
      have zero : d = 0 := by
        rw [List.foldl_cons, colon] at outside
        exact outside
      simp [colon, zero]
    | cons next ts =>
      refine .inr (ih ?_ outside)
      rwa [List.getLast?_cons_cons] at last

/-! ## The first token -/

theorem isGap_of_isWordPoint {c : CodePoint} (h : c.isWordPoint) :
    Piece.isGap (.point c) = false := by
  have apart : ∀ d : CodePoint, d.isWordPoint = false → c ≠ d := by
    rintro d hd rfl
    rw [hd] at h
    cases h
  simp [Piece.isGap, apart ' ' (by decide), apart '\t' (by decide), apart '\x0c' (by decide)]

theorem TokenReader.read_point (r : TokenReader) {q : Located Piece} {c : CodePoint}
    (h : q.value = .point c) (visible : q.value.isGap = false) :
    r.read q = r.readPoint q.line c := by
  rw [h] at visible
  simp only [Piece.isGap, Bool.or_eq_false_iff, decide_eq_false_iff_not, Piece.point.injEq,
    reduceCtorEq, not_false_eq_true, true_and] at visible
  simp [TokenReader.read, h, visible]

/-- A word takes all points of words behind it. -/
theorem foldl_read_word {qs : List (Located Piece)} {t : Text} (h : qs.map (·.value) = t.map .point)
    (word : ∀ c ∈ t, c.isWordPoint) (n : Nat) (s : Text) :
    qs.foldl TokenReader.read ⟨[⟨n, .word s⟩], true⟩ = ⟨[⟨n, .word (s ++ t)⟩], true⟩ := by
  induction t generalizing qs s with
  | nil =>
    obtain rfl := List.map_eq_nil_iff.mp h
    rw [List.append_nil]
    rfl
  | cons c t ih =>
    obtain ⟨q, qs, rfl, first, rest⟩ := List.map_eq_cons_iff.mp h
    obtain ⟨point, others⟩ := List.forall_mem_cons.mp word
    have grown : TokenReader.read ⟨[⟨n, .word s⟩], true⟩ q
        = ⟨[⟨n, .word (s ++ [c])⟩], true⟩ := by
      rw [TokenReader.read_point _ first (first ▸ isGap_of_isWordPoint point)]
      simp [TokenReader.readPoint, Token.extend?, point]
    rw [List.foldl_cons, grown, ih rest others, List.append_assoc, List.singleton_append]

/-- `Settled r t`: the first token is `t`, and no piece makes it longer. -/
structure Settled (r : TokenReader) (t : Located Token) : Prop where
  first : r.tokens.getLast? = some t
  settled : r.isOpen → 2 ≤ r.tokens.length

theorem settled_push {r : TokenReader} {t : Located Token} (first : r.tokens.getLast? = some t)
    (n : Nat) (u : Token) (isOpen : Bool) : Settled (r.push n u isOpen) t := by
  obtain ⟨ts, wasOpen⟩ := r
  cases ts with
  | nil => cases first
  | cons s ts =>
    refine ⟨?_, fun _ => by simp [TokenReader.push]⟩
    rw [TokenReader.push, List.getLast?_cons_cons]
    exact first

/-- A first token that is settled stays the first token. -/
theorem Settled.read {r : TokenReader} {t : Located Token} (h : Settled r t) (q : Located Piece) :
    Settled (r.read q) t := by
  have closed : Settled { r with isOpen := false } t := ⟨h.first, nofun⟩
  unfold TokenReader.read
  split
  · next c _ =>
    split
    · exact closed
    · have push := settled_push h.first q.line (.ofPoint c) true
      unfold TokenReader.readPoint
      split
      · next s rest isOpen tokens =>
        split
        · next more _ =>
          obtain ⟨first, settled⟩ := h
          rw [tokens] at first settled
          cases rest with
          | nil => exact absurd (settled isOpen) (by simp)
          | cons s' rest =>
            rw [List.getLast?_cons_cons] at first
            exact ⟨by rw [List.getLast?_cons_cons, first], fun _ => by simp⟩
        · exact push
      · exact push
  · exact settled_push h.first _ _ _
  · exact closed
  · exact closed

theorem Settled.foldl_read {r : TokenReader} {t : Located Token} (h : Settled r t)
    (qs : List (Located Piece)) : Settled (qs.foldl TokenReader.read r) t := by
  induction qs generalizing r with
  | nil => exact h
  | cons q qs ih => exact ih (h.read q)

/-- A word ends in front of a piece that is no point of a word. -/
theorem settled_word (n : Nat) (w : Text) {q : Located Piece}
    (stops : ∀ c, q.value = .point c → c.isWordPoint = false) :
    Settled (TokenReader.read ⟨[⟨n, .word w⟩], true⟩ q) ⟨n, .word w⟩ := by
  unfold TokenReader.read
  split
  · next c point =>
    split
    · exact ⟨rfl, nofun⟩
    · simp only [TokenReader.readPoint, Token.extend?, stops c point, Bool.false_eq_true, if_false]
      exact settled_push rfl _ _ _
  · exact settled_push rfl _ _ _
  · exact ⟨rfl, nofun⟩
  · exact ⟨rfl, nofun⟩

/-- The points of words that stand in front of all else, the first of them no digit, are the first
token. -/
theorem head_word_tokens {qs : List (Located Piece)} {c : CodePoint} {t : Text} {ps : List Piece}
    (h : qs.map (·.value) = (c :: t).map .point ++ ps) (word : ∀ d ∈ c :: t, d.isWordPoint)
    (letter : c.isDigit = false) (stops : ∀ d, ps.head? = some (.point d) → d.isWordPoint = false) :
    (tokens qs).head?.map (·.value) = some (.word (c :: t)) := by
  obtain ⟨front, back, rfl, points, behind⟩ := List.map_eq_append_iff.mp h
  obtain ⟨q, front, rfl, first, rest⟩ := List.map_eq_cons_iff.mp points
  obtain ⟨point, others⟩ := List.forall_mem_cons.mp word
  have begun : TokenReader.read {} q = ⟨[⟨q.line, .word [c]⟩], true⟩ := by
    rw [TokenReader.read_point _ first (first ▸ isGap_of_isWordPoint point)]
    simp [TokenReader.readPoint, TokenReader.push, Token.ofPoint, point, letter]
  rw [tokens, List.foldl_append, List.foldl_cons, begun, foldl_read_word rest others,
    List.head?_reverse]
  cases back with
  | nil => rfl
  | cons q' back =>
    have settled := (settled_word q.line ([c] ++ t) (q := q') fun d point => stops d ?_).foldl_read
      back
    · rw [List.foldl_cons, settled.first]
      rfl
    · rw [← behind, List.map_cons, List.head?_cons, point]

theorem ne_word_of_extend? {t more : Token} {c : CodePoint} (h : t.extend? c = some more)
    (plain : ∀ w, t ≠ .word w) (w : Text) : more ≠ .word w := by
  cases t with
  | word spelling => exact absurd rfl (plain spelling)
  | sign | literal => cases h
  | number stage =>
    obtain ⟨next, -, rfl⟩ := Option.map_eq_some_iff.mp h
    exact nofun
  | dots count =>
    simp only [Token.extend?] at h
    split_ifs at h <;> cases h <;> exact nofun

/-- `Wordless ts`: there are tokens, and the first is no word. -/
def Wordless (ts : List (Located Token)) : Prop := ∃ t rest, ts = t :: rest ∧ ∀ w, t.value ≠ .word w

theorem wordless_singleton {q : Located Piece} (visible : q.value.isGap = false)
    (other : ∀ c, q.value = .point c → c.isDigit ∨ c.isWordPoint = false) :
    Wordless (tokens [q]) := by
  have grows := grows_tokens [] q
  rw [List.nil_append] at grows
  generalize tokens [q] = us at grows ⊢
  cases grows with
  | skips gap => exact absurd gap (by simp [visible])
  | quotes => exact ⟨_, _, rfl, nofun⟩
  | @begins c point =>
    refine ⟨_, _, rfl, fun w => ?_⟩
    unfold Token.ofPoint
    rcases other c point with digit | other
    · simp [digit]
    · split_ifs with _ word
      · exact nofun
      · exact absurd word (by simp [other])
      · exact nofun
      · exact nofun
  | lengthens _ last => exact absurd last (by simp [tokens])

/-- More pieces do not turn the first token into a word. -/
theorem Wordless.grow {ts us : List (Located Token)} {q : Located Piece} (h : Wordless ts)
    (grows : Grows ts q us) : Wordless us := by
  obtain ⟨t, rest, rfl, plain⟩ := h
  cases grows with
  | skips => exact ⟨t, rest, rfl, plain⟩
  | quotes | begins => exact ⟨t, _, rfl, plain⟩
  | @lengthens front s c more _ last grown =>
    cases front with
    | nil =>
      obtain ⟨rfl, -⟩ := List.cons.inj last
      exact ⟨_, _, rfl, ne_word_of_extend? grown plain⟩
    | cons s' front =>
      obtain ⟨rfl, -⟩ := List.cons.inj last
      exact ⟨_, _, rfl, plain⟩

/-- Where no letter stands in front of all else, the first token is no word. -/
theorem wordless_tokens {q : Located Piece} (visible : q.value.isGap = false)
    (other : ∀ c, q.value = .point c → c.isDigit ∨ c.isWordPoint = false)
    (qs : List (Located Piece)) : Wordless (tokens (q :: qs)) := by
  induction qs using List.reverseRecOn with
  | nil => exact wordless_singleton visible other
  | append_singleton qs p ih => exact ih.grow (grows_tokens (q :: qs) p)

end Source

end AgentWorkflow
