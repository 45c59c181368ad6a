import AgentWorkflow.Naming.Case
import AgentWorkflow.Proofs.Naming.Words
import AgentWorkflow.Proofs.Number.Points
import AgentWorkflow.Source.Literal
import AgentWorkflow.Text.Shell
import AgentWorkflow.Text.Yaml
import Mathlib.Tactic.SplitIfs

/-!
# Encodable texts

A text can be written in UTF-8 when it has no unpaired surrogate. Putting texts together, cutting
them, escaping them and making names from them never brings a surrogate in. A fixed text has none,
since it is made of characters.

The lemmas say of each way to make a text what its parts must be, as equations where the parts are
all kept, so that a whole template is reduced to the texts that were filled in.
-/

namespace AgentWorkflow

theorem CodePoint.not_isSurrogate_ofChar (ch : Char) : (CodePoint.ofChar ch).isSurrogate = false := by
  have valid := ch.valid
  simp only [UInt32.isValidChar, Nat.isValidChar] at valid
  simp only [CodePoint.isSurrogate, Bool.and_eq_false_iff, decide_eq_false_iff_not]
  show ¬0xD800 ≤ ch.val.toNat ∨ ¬ch.val.toNat ≤ 0xDFFF
  omega

theorem CodePoint.not_isSurrogate_of_lt {c : CodePoint} (h : c.val < 0x80) : c.isSurrogate = false := by
  simp only [CodePoint.isSurrogate, Bool.and_eq_false_iff, decide_eq_false_iff_not]
  omega

namespace Text

variable {t u : Text}

/-! ## Parts of a text -/

theorem isEncodable_iff : t.isEncodable ↔ ∀ c ∈ t, c.isSurrogate = false := by
  simp [isEncodable]

@[simp] theorem isEncodable_nil : isEncodable [] = true := rfl

@[simp] theorem isEncodable_append (t u : Text) :
    isEncodable (t ++ u) = (t.isEncodable && u.isEncodable) := List.all_append

@[simp] theorem isEncodable_ofString (s : String) : (ofString s).isEncodable = true := by
  refine isEncodable_iff.mpr fun c hc => ?_
  obtain ⟨ch, -, rfl⟩ := List.mem_map.mp hc
  exact CodePoint.not_isSurrogate_ofChar ch

@[simp] theorem isEncodable_flatMap {α : Type} (xs : List α) (f : α → Text) :
    isEncodable (xs.flatMap f) = xs.all fun x => (f x).isEncodable := List.all_flatMap

@[simp] theorem isEncodable_unlines (lines : List Text) :
    (unlines lines).isEncodable = lines.all isEncodable := by
  simp [unlines]

theorem isEncodable_of_subset (h : t.isEncodable) (hu : ∀ c ∈ u, c ∈ t) : u.isEncodable :=
  isEncodable_iff.mpr fun c hc => isEncodable_iff.mp h c (hu c hc)

theorem isEncodable_ite {p : Prop} [Decidable p] (ht : t.isEncodable) (hu : u.isEncodable) :
    isEncodable (if p then t else u) := by
  split
  · exact ht
  · exact hu

theorem isEncodable_join {separator : Text} {parts : List Text} (hs : separator.isEncodable)
    (hp : ∀ part ∈ parts, part.isEncodable) : (join separator parts).isEncodable := by
  refine isEncodable_iff.mpr fun c hc => ?_
  rcases mem_join hc with hc | ⟨part, hpart, hc⟩
  · exact isEncodable_iff.mp hs c hc
  · exact isEncodable_iff.mp (hp part hpart) c hc

theorem isEncodable_trim (h : t.isEncodable) : t.trim.isEncodable :=
  isEncodable_of_subset h fun _ => mem_trim

theorem isEncodable_of_mem_splitOn {separator : CodePoint} (h : t.isEncodable) {piece : Text}
    (hp : piece ∈ splitOn separator t) : piece.isEncodable :=
  isEncodable_of_subset h fun _ => mem_splitOn hp

theorem isEncodable_squeeze (h : t.isEncodable) : t.squeeze.isEncodable :=
  isEncodable_join (isEncodable_ofString " ") fun _ hw =>
    isEncodable_of_subset h fun _ hc => (mem_runs hw hc).1

theorem isEncodable_replace {old : CodePoint} {new : Text} (hn : new.isEncodable)
    (h : t.isEncodable) : (replace old new t).isEncodable :=
  isEncodable_iff.mpr fun c hc =>
    (mem_replace hc).elim (isEncodable_iff.mp hn c) (isEncodable_iff.mp h c)

theorem isEncodable_shellWord (h : t.isEncodable) : t.shellWord.isEncodable := by
  unfold shellWord
  split
  · exact isEncodable_ofString "''"
  · split
    · exact h
    · simp [isEncodable_replace (isEncodable_ofString _) h]

theorem isEncodable_yamlScalar (h : t.isEncodable) : t.yamlScalar.isEncodable := by
  simp [yamlScalar, isEncodable_replace (isEncodable_ofString _) (isEncodable_squeeze h)]

/-! ## ASCII texts -/

theorem isEncodable_of_ascii (h : ∀ c ∈ t, c.val < 0x80) : t.isEncodable :=
  isEncodable_iff.mpr fun c hc => CodePoint.not_isSurrogate_of_lt (h c hc)

theorem val_lt_of_isAlnum {c : CodePoint} (h : c.isAlnum) : c.val < 0x80 := by
  simp only [CodePoint.isAlnum, CodePoint.isLetter, CodePoint.isLower, CodePoint.isUpper,
    CodePoint.isDigit, Bool.or_eq_true, Bool.and_eq_true, decide_eq_true_eq] at h
  omega

theorem isEncodable_of_isWord (h : Naming.IsWord t) : t.isEncodable := by
  refine isEncodable_of_ascii fun c hc => ?_
  rcases (Bool.or_eq_true ..).mp (h c hc) with h | h
  · exact val_lt_of_isAlnum h
  · rw [of_decide_eq_true h]
    decide

theorem isEncodable_kebabCase (t : Text) : (Naming.kebabCase t).isEncodable := by
  refine isEncodable_of_ascii fun c hc => ?_
  rcases Naming.mem_collapse (mem_trimBy hc) with ⟨-, hk⟩ | rfl
  · refine val_lt_of_isAlnum ?_
    simp only [Naming.isKebabPoint, Bool.or_eq_true] at hk
    rcases hk with hk | hk <;> simp [CodePoint.isAlnum, CodePoint.isLetter, hk]
  · decide

@[simp] theorem isEncodable_ofNat (n : Nat) : (ofNat n).isEncodable = true :=
  isEncodable_of_ascii fun c hc =>
    val_lt_of_isAlnum (by simp [CodePoint.isAlnum, isDigit_of_mem_ofNat hc])

@[simp] theorem isEncodable_ofInt (n : Int) : (ofInt n).isEncodable = true := by
  cases n <;> simp [ofInt]

@[simp] theorem isEncodable_hex (width n : Nat) : (hex width n).isEncodable = true := by
  refine isEncodable_iff.mpr fun c hc => ?_
  rcases List.mem_append.mp hc with hc | hc
  · rw [List.eq_of_mem_replicate hc]
    decide
  · obtain ⟨ch, -, rfl⟩ := List.mem_map.mp hc
    exact CodePoint.not_isSurrogate_ofChar ch

theorem isEncodable_text {x : Binary64} (h : x.isFinite) : x.text.isEncodable := by
  refine isEncodable_of_ascii fun c hc => ?_
  rcases (Bool.or_eq_true ..).mp (Binary64.isNumberPoint_of_mem_text h hc) with h | h
  · exact val_lt_of_isAlnum (by simp [CodePoint.isAlnum, h])
  · exact (by decide : ∀ c ∈ ("+-.e" : Text), c.val < 0x80) c (List.contains_iff_mem.mp h)

@[simp] theorem isEncodable_realText (x : Binary64) : x.text.isEncodable = true := by
  by_cases h : x.isFinite
  · exact isEncodable_text h
  · cases x with
    | finite negative m => exact absurd rfl h
    | nan => exact isEncodable_ofString _
    | infinite negative => simp [Binary64.text]

end Text

/-! ## Literals -/

namespace Source

open Text

@[simp] theorem isEncodable_escaped (c : CodePoint) : isEncodable c.escaped = !c.isSurrogate := by
  -- every escape is ASCII, and so is what it stands for
  rcases c.escaped_cases with ⟨low, d, hd, h⟩ | ⟨low, h⟩ | ⟨-, h⟩
  · have pair : ∀ d ∈ ("\\\"nrt" : Text), isEncodable [('\\' : CodePoint), d] := by decide
    rw [h, pair d hd, CodePoint.not_isSurrogate_of_lt low]
    rfl
  · rw [h, isEncodable_append, isEncodable_ofString, isEncodable_hex,
      CodePoint.not_isSurrogate_of_lt low]
    rfl
  · rw [h]
    simp [isEncodable]

@[simp] theorem isEncodable_escape (t : Text) : (escape t).isEncodable = t.isEncodable := by
  rw [escape, isEncodable_flatMap]
  simp only [isEncodable_escaped]
  rfl

@[simp] theorem isEncodable_literal (t : Text) : (literal t).isEncodable = t.isEncodable := by
  simp [literal]

@[simp] theorem isEncodable_indent (level : Nat) : (indent level).isEncodable = true := by
  refine isEncodable_iff.mpr fun c hc => ?_
  rw [List.eq_of_mem_replicate hc]
  decide

@[simp] theorem isEncodable_line (level : Nat) (t : Text) :
    (line level t).isEncodable = t.isEncodable := by
  simp [line]

@[simp] theorem all_isEncodable_fixed (lines : List String) :
    (fixed lines).all isEncodable = true := by
  simp [fixed]

theorem isEncodable_multilineLiteral (level : Nat) {t : Text} (h : t.isEncodable) :
    (multilineLiteral (indent level) t).isEncodable := by
  have parts : ∀ chunk ∈ chunks t, isEncodable chunk := fun chunk hc =>
    isEncodable_of_subset h fun c hcc =>
      flatten_chunks t ▸ List.mem_flatten.mpr ⟨chunk, hc, hcc⟩
  unfold multilineLiteral
  split
  · simpa using parts
  · simpa using h

theorem all_isEncodable_docstring (level : Nat) {lines : List Text} (h : lines.all isEncodable) :
    (docstring (indent level) lines).all isEncodable := by
  match lines with
  | [] => rfl
  | [first] => simpa [docstring] using h
  | first :: second :: more =>
    have indented : ∀ l : Text, l.isEncodable →
        isEncodable (if l.isEmpty then [] else indent level ++ escape l) := by
      intro l hl
      split
      · rfl
      · simpa using hl
    rw [List.all_cons, Bool.and_eq_true] at h
    have inner : ((second :: more).map fun l =>
        if l.isEmpty then [] else indent level ++ escape l).all isEncodable := by
      rw [List.all_map, List.all_eq_true]
      exact fun l hl => indented l (List.all_eq_true.mp h.2 l hl)
    rw [docstring, List.all_append, List.all_append, inner]
    · simp [h.1]
    · simp

end Source

end AgentWorkflow
