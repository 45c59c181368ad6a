import AgentWorkflow.Proofs.Source.Expressions

/-!
# Texts come back

Three renderings put a text into a program: a literal, one literal per line, and a docstring. Each
is made of escaped text, in which no quote stands but behind a backslash that takes it along, and no
control character at all. So a literal stays on its line and ends where it should, and what the
program says is the text again, or for a docstring the text as it is laid out behind its margin.

Results:
1. `isQuotable_escape`, `isPrintable_literal`: what an escaped text and a literal are made of.
2. `value?_literal`, `value?_multilineLiteral`, `value?_docstring`: what each rendering says.
3. `value?_renderings`: all of it, for any text and any margin of spaces.
-/

namespace AgentWorkflow

namespace Source

/-! ## The inside of a literal -/

/-- True of what may stand between two quotes: each backslash takes the point behind it along, and
no quote is left. -/
def isQuotable : Text → Bool
  | [] => true
  | [c] => c ≠ '\\' && c ≠ '"'
  | c :: d :: rest =>
    if c = '\\' then isQuotable rest else c ≠ '"' && isQuotable (d :: rest)

/-- True of a text without control characters of ASCII, the ends of lines among them. -/
def isPrintable (t : Text) : Bool := t.all fun c => 0x20 ≤ c.val && c.val ≠ 0x7F

theorem isQuotable_cons {c : CodePoint} (hb : c ≠ '\\') (hq : c ≠ '"') (t : Text) :
    isQuotable (c :: t) = isQuotable t := by
  cases t <;> simp [isQuotable, hb, hq]

theorem isQuotable_pair (c : CodePoint) (t : Text) : isQuotable ('\\' :: c :: t) = isQuotable t :=
  if_pos rfl

theorem isQuotable_append_inner {t : Text} (h : ∀ c ∈ t, isInner c) (u : Text) :
    isQuotable (t ++ u) = isQuotable u := by
  induction t with
  | nil => rfl
  | cons c t ih =>
    obtain ⟨inner, rest⟩ := List.forall_mem_cons.mp h
    simp only [isInner, Bool.not_eq_true', Bool.or_eq_false_iff, decide_eq_false_iff_not] at inner
    rw [List.cons_append, isQuotable_cons inner.1.2 inner.1.1, ih rest]

/-- An escaped point takes along what it needs, and nothing behind it. -/
theorem isQuotable_escaped_append (c : CodePoint) (t : Text) :
    isQuotable (c.escaped ++ t) = isQuotable t := by
  rcases c.escaped_cases with ⟨-, d, -, h⟩ | ⟨low, h⟩ | ⟨⟨backslash, quote, -⟩, h⟩
  · rw [h]
    exact isQuotable_pair d t
  · rw [h, List.append_assoc]
    exact (isQuotable_pair 'x' _).trans (isQuotable_append_inner (isInner_of_mem_hex c.val low) t)
  · rw [h]
    exact isQuotable_cons backslash quote t

theorem isQuotable_escape (t : Text) : isQuotable (escape t) := by
  induction t with
  | nil => rfl
  | cons c t ih =>
    rw [escape, List.flatMap_cons, isQuotable_escaped_append]
    exact ih

theorem isPrintable_append (t u : Text) :
    isPrintable (t ++ u) = (isPrintable t && isPrintable u) := List.all_append

theorem isPrintable_escaped (c : CodePoint) : isPrintable c.escaped := by
  rcases c.escaped_cases with ⟨-, d, hd, h⟩ | ⟨low, h⟩ | ⟨⟨-, -, graphic⟩, h⟩
  · rw [h]
    exact (by decide : ∀ d ∈ ("\\\"nrt" : Text), isPrintable [('\\' : CodePoint), d]) d hd
  · have digits : ∀ n < 0x80, isPrintable (("\\x" : Text) ++ Text.hex 2 n) := by decide +kernel
    rw [h]
    exact digits c.val low
  · rw [h]
    simpa [isPrintable] using graphic

theorem isPrintable_literal (t : Text) : isPrintable (literal t) := by
  have inside : isPrintable (escape t) := by
    rw [isPrintable, escape, List.all_flatMap]
    exact List.all_eq_true.mpr fun c _ => isPrintable_escaped c
  have quote : isPrintable "\"" := by decide
  rw [literal, isPrintable_append, isPrintable_append, inside, quote]
  rfl

/-! ## What a program says -/

/-- What a run says that is a literal or literals side by side in parentheses. -/
def valueOf? : List Leaf → Option Text
  | [.text t] => some t
  | [.group c inner] => if c = '(' then literals? inner else none
  | _ => none

/-- What a program says that is such a run. The end of its line belongs to it, since a literal is
not over before a point follows that is no quote. -/
def value? (program : Text) : Option Text :=
  (read? program).bind fun leaves => valueOf? (trimRun leaves)

theorem value?_of_reads {program : Text} {pre run post : List Leaf}
    (h : Reads program (pre ++ (run ++ post))) (hpre : Blank pre) (hr : Item run)
    (hpost : Blank post) : value? program = valueOf? run := by
  rw [value?, read?_of_reads h, Option.bind_some, trimRun_eq hr.starts hr.ends hpre hpost]

theorem blank_spaces (n : Nat) : Blank ((spaces n).map .point) := by
  intro l hl
  obtain ⟨c, hc, rfl⟩ := List.mem_map.mp hl
  rw [List.eq_of_mem_replicate hc]
  decide

theorem blank_lineEnd : Blank [.lineEnd] := blank_nil.cons rfl

theorem value?_literal (t : Text) : value? (literal t ++ "\n") = some t := by
  have reads : Reads (literal t ++ "\n") ([] ++ ([.text t] ++ [.lineEnd])) :=
    (awaits_literal t).append reads_newline rfl
  exact value?_of_reads reads blank_nil (item_text t) blank_lineEnd

/-- A text on several lines is read back whole, its line ends included. -/
theorem value?_multilineLiteral (n : Nat) (t : Text) :
    value? (multilineLiteral (spaces n) t ++ "\n") = some t := by
  have deeper : Reads (spaces n ++ "    ") ((spaces (n + 4)).map .point) := by
    have joined : spaces n ++ "    " = spaces (n + 4) := (List.replicate_add n 4 _).symm
    rw [joined]
    exact reads_spaces (n + 4)
  have awaits := awaits_multilineLiteral_behind (reads_spaces n) deeper t
  have reads := reads_nil.append (awaits.append reads_newline rfl)
  split at reads
  case isFalse => exact value?_of_reads reads blank_nil (item_text t) blank_lineEnd
  case isTrue several =>
    have given : t ≠ [] := by
      rintro rfl
      cases several
    exact (value?_of_reads reads blank_nil (item_group _ _) blank_lineEnd).trans
      (literals?_lines (blank_spaces n) (blank_spaces (n + 4)) given)

theorem value?_docstring (n : Nat) (line : Text) (more : List Text) :
    value? (Text.unlines (docstring (spaces n) (line :: more)))
      = some (marginText (spaces n) line more) := by
  have item := item_text (marginText (spaces n) line more)
  have reads := reads_docstring_behind (reads_spaces n) (holds_spaces n) line more
  exact value?_of_reads reads (blank_spaces n) item blank_lineEnd

/-- A literal stays on its line and no quote inside ends it. What it says is the text, and so is
what one literal per line says; a docstring says its lines behind their margin. -/
theorem value?_renderings (t line : Text) (more : List Text) (n : Nat) :
    (isPrintable (literal t) ∧
        ∃ inside, literal t = ("\"" : Text) ++ inside ++ "\"" ∧ isQuotable inside) ∧
      value? (literal t ++ "\n") = some t ∧
      value? (multilineLiteral (spaces n) t ++ "\n") = some t ∧
      value? (Text.unlines (docstring (spaces n) (line :: more)))
        = some (marginText (spaces n) line more) :=
  ⟨⟨isPrintable_literal t, escape t, rfl, isQuotable_escape t⟩, value?_literal t,
    value?_multilineLiteral n t, value?_docstring n line more⟩

end Source

end AgentWorkflow
