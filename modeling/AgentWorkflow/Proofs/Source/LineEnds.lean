import AgentWorkflow.Proofs.Naming.Distinct
import AgentWorkflow.Proofs.Text.Encodable
import AgentWorkflow.Proofs.Text.Lacking
import AgentWorkflow.Source.Scan

/-!
# Line ends and zeros of a program

A carriage return ends a line of a program, and a program with a zero is not read. Free text brings
neither into a program, since both are escaped there, and no other part has them. So the lines of a
program are those that line feeds end (`unifyLineEnds_of_isClean`), and a scan of it reads them from
the first point to the last (`scan_of_isClean`).
-/

namespace AgentWorkflow

namespace Text

/-- True of a text without carriage returns and zeros. -/
def isClean (t : Text) : Bool := t.all fun c => c ≠ '\r' && c ≠ '\x00'

variable {t u : Text}

theorem isClean_iff : t.isClean ↔ ∀ c ∈ t, c ≠ '\r' ∧ c ≠ '\x00' := by simp [isClean]

@[simp] theorem isClean_nil : isClean [] = true := rfl

@[simp] theorem isClean_append (t u : Text) : isClean (t ++ u) = (t.isClean && u.isClean) :=
  List.all_append

-- stated for the characters of a literal, since the kernel is slow to decode the literal itself
@[simp] theorem isClean_ofString (cs : List Char) :
    (ofString (no_index (String.ofList cs))).isClean = cs.all fun c => c ≠ '\r' && c ≠ '\x00' := by
  rw [isClean, ofString_ofList, List.all_map]
  refine List.all_congr rfl fun c => ?_
  have point : ∀ d, CodePoint.ofChar c = CodePoint.ofChar d ↔ c = d := fun _ =>
    CodePoint.ofChar_injective.eq_iff
  simp [point]

@[simp] theorem isClean_flatMap {α : Type} (xs : List α) (f : α → Text) :
    isClean (xs.flatMap f) = xs.all fun x => (f x).isClean := List.all_flatMap

@[simp] theorem isClean_unlines (lines : List Text) :
    (unlines lines).isClean = lines.all isClean := by
  have newline : isClean "\n" := by decide
  simp only [unlines, isClean_flatMap, isClean_append, newline, Bool.and_true]

theorem isClean_join {separator : Text} {parts : List Text} (hs : separator.isClean)
    (hp : ∀ part ∈ parts, part.isClean) : (join separator parts).isClean := by
  refine isClean_iff.mpr fun c hc => ?_
  rcases mem_join hc with hc | ⟨part, hpart, hc⟩
  · exact isClean_iff.mp hs c hc
  · exact isClean_iff.mp (hp part hpart) c hc

theorem isClean_of_isWord (h : Naming.IsWord t) : t.isClean :=
  isClean_iff.mpr fun c hc =>
    ⟨by rintro rfl; exact absurd (h _ hc) (by decide),
     by rintro rfl; exact absurd (h _ hc) (by decide)⟩

theorem isClean_text {x : Binary64} (h : x.isFinite) : x.text.isClean := by
  refine isClean_iff.mpr fun c hc => ?_
  have number := Binary64.isNumberPoint_of_mem_text h hc
  exact ⟨by rintro rfl; exact absurd number (by decide),
    by rintro rfl; exact absurd number (by decide)⟩

/-- A text without carriage returns has the line ends that are wanted. -/
theorem unifyLineEnds_of_isClean (h : t.isClean) : t.unifyLineEnds = t := by
  induction t with
  | nil => rfl
  | cons c t ih =>
    obtain ⟨⟨other, -⟩, rest⟩ := List.forall_mem_cons.mp (isClean_iff.mp h)
    have same := ih (isClean_iff.mpr rest)
    cases t with
    | nil => simp [unifyLineEnds, other]
    | cons d t => rw [unifyLineEnds, if_neg other, same]

end Text

namespace Source

open Text

/-- No escape leaves a carriage return or a zero. -/
theorem isClean_escaped (c : CodePoint) : isClean c.escaped = true := by
  rcases c.escaped_cases with ⟨-, d, hd, h⟩ | ⟨low, h⟩ | ⟨⟨-, -, graphic, -⟩, h⟩
  · rw [h]
    exact (by decide : ∀ d ∈ ("\\\"nrt" : Text), isClean [('\\' : CodePoint), d]) d hd
  · have digits : ∀ n < 0x80, isClean (("\\x" : Text) ++ hex 2 n) := by decide +kernel
    rw [h, digits c.val low]
  · rw [h]
    refine isClean_iff.mpr (List.forall_mem_singleton.mpr ⟨?_, ?_⟩)
    · rintro rfl
      exact absurd graphic (by decide)
    · rintro rfl
      exact absurd graphic (by decide)

@[simp] theorem isClean_escape (t : Text) : (escape t).isClean = true := by
  simp [escape, isClean_escaped]

@[simp] theorem isClean_literal (t : Text) : (literal t).isClean = true := by simp [literal]

@[simp] theorem isClean_indent (level : Nat) : (indent level).isClean = true := by
  refine isClean_iff.mpr fun c hc => ?_
  rw [List.eq_of_mem_replicate hc]
  decide

/-- A clean program is read as it stands. -/
theorem scan_of_isClean {t : Text} (h : t.isClean) : scan t = .ofLines t := by
  have noZero : t.contains '\x00' = false := Bool.eq_false_iff.mpr fun zero =>
    (isClean_iff.mp h _ (List.contains_iff_mem.mp zero)).2 rfl
  rw [scan, noZero, unifyLineEnds_of_isClean h]
  rfl

@[simp] theorem isClean_line (level : Nat) (t : Text) : (line level t).isClean = t.isClean := by
  simp [line]

@[simp] theorem isClean_multilineLiteral (level : Nat) (t : Text) :
    (multilineLiteral (indent level) t).isClean = true := by
  unfold multilineLiteral
  split <;> simp

theorem all_isClean_docstring (level : Nat) (lines : List Text) :
    (docstring (indent level) lines).all isClean := by
  match lines with
  | [] => rfl
  | [first] => simp [docstring]
  | first :: second :: more =>
    have inner : ∀ l : Text, isClean (if l = [] then [] else indent level ++ escape l) := by
      intro l
      split <;> simp
    simp [docstring, inner]

end Source

end AgentWorkflow
