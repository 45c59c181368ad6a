import AgentWorkflow.Hash.Payload
import AgentWorkflow.Proofs.Text.Splitting
import AgentWorkflow.Proofs.Text.Encodable
import AgentWorkflow.Proofs.Text.Utf8

/-!
# What the payload tells apart

The payload closes every name and every content with a zero byte and says no lengths, so a zero
character inside a text is not told from the end of one. The payload therefore knows the files only
up to where their names and contents are cut at zero characters: `pieces`.

Results:
1. `payload_eq_iff`: encodable files have the same payload exactly if they have the same pieces.
2. `eq_of_pieces_eq`: unbroken files, which hold no zero character, share their pieces with no other
   files of at least their number.
3. `payload_separates`: both for payloads. That unbroken is needed is shown by `glued`, one file
   that holds what two files of `parted` are.
-/

namespace AgentWorkflow

namespace Text

theorem utf8_append (t u : Text) : (t ++ u).utf8 = t.utf8 ++ u.utf8 := List.flatMap_append

/-- UTF-8 writes different encodable texts differently, since reading gives them back. -/
theorem eq_of_utf8_eq {t u : Text} (ht : t.isEncodable) (hu : u.isEncodable)
    (same : t.utf8 = u.utf8) :
    t = u := by
  have read := Utf8.decode_utf8 ht
  rw [same, Utf8.decode_utf8 hu] at read
  exact (Except.ok.inj read).symm

end Text

namespace Project

open Text

variable {files others : Table Text}

/-- The character that stands for a zero byte. -/
def zero : CodePoint := CodePoint.ofNat 0

/-- The names and contents of files, in order. -/
def texts (files : Table Text) : List Text := files.flatMap fun (name, content) => [name, content]

/-- What is between the zero characters of names and contents, in order. -/
def pieces (files : Table Text) : List Text := (texts files).flatMap (splitOn zero)

/-- The payload before it is written in UTF-8. -/
def stream (files : Table Text) : Text := (texts files).flatMap (· ++ [zero])

/-- Files whose names and contents UTF-8 can write. -/
def Writable (files : Table Text) : Prop := ∀ t ∈ texts files, t.isEncodable

/-- Files that hold no zero character. -/
def Unbroken (files : Table Text) : Prop := ∀ t ∈ texts files, zero ∉ t

instance : Decidable (Writable files) := inferInstanceAs (Decidable (∀ t ∈ texts files, _))

instance : Decidable (Unbroken files) := inferInstanceAs (Decidable (∀ t ∈ texts files, _))

theorem texts_cons (file : Text × Text) (files : Table Text) :
    texts (file :: files) = [file.1, file.2] ++ texts files := rfl

theorem length_texts (files : Table Text) : (texts files).length = 2 * files.length := by
  induction files with
  | nil => rfl
  | cons file files ih =>
    rw [texts_cons, List.length_append, ih, List.length_cons, List.length_cons, List.length_cons,
      List.length_nil]
    omega

/-- Names and contents alternate, so they say which are which. -/
theorem texts_injective : Function.Injective texts := by
  intro files
  induction files with
  | nil =>
    intro others same
    have none : 2 * others.length = 0 := by rw [← length_texts, ← same]; rfl
    exact (List.length_eq_zero_iff.mp (by omega)).symm
  | cons file files ih =>
    intro others same
    cases others with
    | nil => cases same
    | cons other others =>
      rw [texts_cons, texts_cons] at same
      obtain ⟨head, tail⟩ := List.append_inj same rfl
      obtain ⟨name, content⟩ : file.1 = other.1 ∧ file.2 = other.2 := by simpa using head
      rw [Prod.ext name content, ih tail]

/-! ## Bytes and characters -/

/-- The payload is the encoded stream, so separating streams is enough to separate payloads. -/
theorem payload_eq_utf8 (files : Table Text) : payload files = (stream files).utf8 := by
  have closing : Text.utf8 [zero] = [0] := by decide
  induction files with
  | nil => rfl
  | cons file files ih =>
    have first : stream (file :: files) = file.1 ++ [zero] ++ (file.2 ++ [zero]) ++ stream files := by
      rw [stream, texts_cons, List.flatMap_append, stream]
      simp only [List.flatMap_cons, List.flatMap_nil, List.append_nil]
    calc payload (file :: files)
        = file.1.utf8 ++ [0] ++ file.2.utf8 ++ [0] ++ payload files := rfl
      _ = (stream (file :: files)).utf8 := by
          simp only [first, utf8_append, closing, ih, List.append_assoc]

theorem Writable.stream (writable : Writable files) : (stream files).isEncodable := by
  rw [Project.stream, isEncodable_flatMap, List.all_eq_true]
  intro t held
  rw [isEncodable_append, writable t held]
  rfl

/-! ## Characters and pieces -/

theorem splitOn_stream (files : Table Text) : splitOn zero (stream files) = pieces files ++ [[]] :=
  splitOn_closed zero (texts files)

theorem stream_eq_iff : stream files = stream others ↔ pieces files = pieces others := by
  constructor
  · intro same
    have cut : pieces files ++ [[]] = pieces others ++ [[]] := by
      rw [← splitOn_stream, ← splitOn_stream, same]
    exact List.append_cancel_right cut
  · intro same
    rw [← join_splitOn zero (stream files), ← join_splitOn zero (stream others), splitOn_stream,
      splitOn_stream, same]

theorem payload_eq_iff (hf : Writable files) (ho : Writable others) :
    payload files = payload others ↔ pieces files = pieces others := by
  rw [payload_eq_utf8, payload_eq_utf8, ← stream_eq_iff]
  exact ⟨eq_of_utf8_eq hf.stream ho.stream, congrArg Text.utf8⟩

/-! ## Pieces and files -/

theorem flatMap_splitOn_of_unbroken {parts : List Text} (unbroken : ∀ t ∈ parts, zero ∉ t) :
    parts.flatMap (splitOn zero) = parts := by
  induction parts with
  | nil => rfl
  | cons part parts ih =>
    rw [List.flatMap_cons, splitOn_eq_singleton (unbroken part List.mem_cons_self),
      ih fun t held => unbroken t (List.mem_cons_of_mem part held), List.singleton_append]

theorem length_le_flatMap_splitOn (parts : List Text) :
    parts.length ≤ (parts.flatMap (splitOn zero)).length := by
  induction parts with
  | nil => exact Nat.le_refl 0
  | cons part parts ih =>
    have some_piece := length_splitOn_pos zero part
    rw [List.flatMap_cons, List.length_append, List.length_cons]
    omega

/-- Texts that are cut into no more pieces than there are texts are not cut at all. -/
theorem unbroken_of_length_le {parts : List Text}
    (few : (parts.flatMap (splitOn zero)).length ≤ parts.length) : ∀ t ∈ parts, zero ∉ t := by
  induction parts with
  | nil => simp
  | cons part parts ih =>
    have some_piece := length_splitOn_pos zero part
    have rest := length_le_flatMap_splitOn parts
    rw [List.flatMap_cons, List.length_append, List.length_cons] at few
    have whole : zero ∉ part := length_splitOn_eq_one_iff.mp (by omega)
    exact List.forall_mem_cons.mpr ⟨whole, ih (by omega)⟩

theorem eq_of_pieces_eq (unbroken : Unbroken files) (few : files.length ≤ others.length)
    (same : pieces files = pieces others) : files = others := by
  have whole : pieces files = texts files := flatMap_splitOn_of_unbroken unbroken
  have counted : (pieces others).length ≤ (texts others).length := by
    rw [← same, whole, length_texts, length_texts]
    omega
  have whole' : pieces others = texts others :=
    flatMap_splitOn_of_unbroken (unbroken_of_length_le counted)
  exact texts_injective (by rw [← whole, same, whole'])

/-- The payload of encodable files says the pieces of their names and contents in order, no less and
no more. If the files hold no zero character, no others of at least their number share it. -/
theorem payload_separates (hf : Writable files) (ho : Writable others) :
    (payload files = payload others ↔ pieces files = pieces others)
      ∧ (Unbroken files → files.length ≤ others.length →
        (payload files = payload others ↔ files = others)) := by
  refine ⟨payload_eq_iff hf ho, fun unbroken few => ⟨fun same => ?_, congrArg payload⟩⟩
  exact eq_of_pieces_eq unbroken few ((payload_eq_iff hf ho).mp same)

/-- One file whose content has zero characters. -/
def glued : Table Text := [("a", ("b" : Text) ++ [zero] ++ "c" ++ [zero] ++ "d")]

/-- Two files that are laid out as the one is. -/
def parted : Table Text := [("a", "b"), ("c", "d")]

/-- The hypotheses hold of files without the separator in their texts. -/
theorem parted_payload_apart :
    Writable parted ∧ Writable (("e", "f") :: parted) ∧ Unbroken parted
      ∧ payload parted ≠ payload (("e", "f") :: parted) := by
  have writable : Writable parted := by decide
  have writable' : Writable (("e", "f") :: parted) := by decide
  have unbroken : Unbroken parted := by decide
  have separated := payload_separates writable writable'
  refine ⟨writable, writable', unbroken, fun same => ?_⟩
  have equal := (separated.2 unbroken (by decide)).mp same
  exact absurd equal (by decide)

/-- Encodable maps of files, with distinct names, that differ and have the same payload. -/
theorem glued_payload_shared :
    Writable glued ∧ Writable parted ∧ (glued.map Prod.fst).Nodup ∧ (parted.map Prod.fst).Nodup
      ∧ payload glued = payload parted ∧ glued ≠ parted := by
  decide

end Project

end AgentWorkflow
