import AgentWorkflow.Console.Run
import AgentWorkflow.Proofs.Disk.Writing
import AgentWorkflow.Proofs.Text.Utf8

/-!
# Files written one after another

Files are written into a directory one by one, up to the first one that the disk refuses. Those
before it stay, and nothing else on the disk changes, but for the directories that are made first
and for the one that is refused, of which a part may be written.

A path need not lead to a place of its own: a link, or a further name of a file, may stand under the
name of a file in the directory. Of two files whose paths lead to the same place the later one is
there. A device keeps neither.

Results:
1. `writeFiles_cases`: all files are written, or those before one that is refused.
2. `writes_of_accepts`: all files are written where none is refused.
3. `Writes.stored`: what is on the disk when files have been written.
4. `store_cases`, `widens_store`: the same for a directory that is made first.
-/

namespace AgentWorkflow

namespace Console

open Disk (Plain)

variable {d d' d₁ d₂ : Disk} {dir : DiskPath} {place : Place} {file : Text × Text}
  {done files later : Table Text}

/-! ## One after another -/

/-- `Writes dir files d d'`: the files are written one after another, which leads from the first
disk to the second one. -/
inductive Writes (dir : DiskPath) : Table Text → Disk → Disk → Prop
  | nil (d : Disk) : Writes dir [] d d
  | cons {file : Text × Text} {files : Table Text} {d d₁ d' : Disk}
      (written : d.writeFile (dir.child file.1) file.2.utf8 = .ok d₁)
      (rest : Writes dir files d₁ d') : Writes dir (file :: files) d d'

/-- `Left dir file d d'`: the second disk is the first one, or the file has been emptied there and
the first bytes of its text have been written. -/
def Left (dir : DiskPath) (file : Text × Text) (d d' : Disk) : Prop :=
  d' = d ∨ ∃ p kept, d.place (dir.child file.1) = .ok p ∧ d.Writable p ∧
    d' = d.pour p (file.2.utf8.take kept)

/-- `Halts dir files done d₁ d d'`: the files in `done` are written, which leads to `d₁`, and the
one behind them is refused. -/
structure Halts (dir : DiskPath) (files done : Table Text) (d₁ d d' : Disk) : Prop where
  writes : Writes dir done d d₁
  refused : ∃ file later, files = done ++ file :: later ∧
    d₁.Refuses (dir.child file.1) file.2.utf8 ∧ Left dir file d₁ d'

/-- Writes compose: files that follow are written onto the disk that the files before them leave. -/
theorem Writes.append_iff : Writes dir (done ++ files) d d' ↔
    ∃ d₁, Writes dir done d d₁ ∧ Writes dir files d₁ d' := by
  constructor
  · intro whole
    induction done generalizing d with
    | nil => exact ⟨d, .nil d, whole⟩
    | cons file done ih =>
      cases whole with
      | cons written rest =>
        obtain ⟨d₁, first, second⟩ := ih rest
        exact ⟨d₁, .cons written first, second⟩
  · rintro ⟨d₁, first, second⟩
    induction first with
    | nil => exact second
    | cons written _ ih => exact .cons written (ih second)

theorem Writes.unique (h : Writes dir files d d₁) (h' : Writes dir files d d₂) : d₁ = d₂ := by
  induction h with
  | nil =>
    cases h'
    rfl
  | cons written _ ih =>
    cases h' with
    | cons written' rest' =>
      cases written.symm.trans written'
      exact ih rest'

/-- Files are not all written if one is refused behind those before it. -/
theorem Halts.not_writes (h : Halts dir files done d₁ d d') : ¬Writes dir files d d₂ := by
  intro whole
  obtain ⟨file, later, rfl, refuses, -⟩ := h.refused
  obtain ⟨d₃, first, second⟩ := Writes.append_iff.mp whole
  obtain rfl := first.unique h.writes
  obtain ⟨e, failed⟩ := Disk.exists_writeFile_error_iff.mpr refuses
  cases second with
  | cons written rest => cases written.symm.trans failed

/-- All files are written, or those before one that is refused. -/
theorem writeFiles_cases (d : Disk) (dir : DiskPath) (files : Table Text) :
    ((writeFiles d dir files).2.2 = none ∧ Writes dir files d (writeFiles d dir files).1) ∨
    ((writeFiles d dir files).2.2 ≠ none ∧
      ∃ done d₁, Halts dir files done d₁ d (writeFiles d dir files).1) := by
  induction files generalizing d with
  | nil => exact .inl ⟨rfl, .nil d⟩
  | cons file files ih =>
    obtain ⟨name, content⟩ := file
    rw [writeFiles]
    cases written : d.writeFile (dir.child name) content.utf8 with
    | error e =>
      have refuses := Disk.exists_writeFile_error_iff.mp ⟨e, written⟩
      exact .inr ⟨nofun, [], d, .nil d, (name, content), files, rfl, refuses,
        Disk.writeFile_eq_error written⟩
    | ok d₁ =>
      rcases ih d₁ with ⟨complete, writes⟩ | ⟨incomplete, done, d₂, halts⟩
      · exact .inl ⟨complete, .cons written writes⟩
      · obtain ⟨other, later, rfl, refuses, left⟩ := halts.refused
        exact .inr ⟨incomplete, (name, content) :: done, d₂, .cons written halts.writes,
          other, later, rfl, refuses, left⟩

theorem writeFiles_of_writes (h : Writes dir files d d') :
    (writeFiles d dir files).2.2 = none ∧ (writeFiles d dir files).1 = d' := by
  rcases writeFiles_cases d dir files with ⟨complete, writes⟩ | ⟨-, done, d₁, halts⟩
  · exact ⟨complete, writes.unique h⟩
  · exact absurd h halts.not_writes

/-- Files can be written where each of them alone can. -/
theorem writes_of_accepts (accepts : ∀ file ∈ files, ∃ p, d.Accepts (dir.child file.1) p) :
    ∃ d', Writes dir files d d' := by
  induction files generalizing d with
  | nil => exact ⟨d, .nil d⟩
  | cons file files ih =>
    obtain ⟨⟨p, first⟩, others⟩ := List.forall_mem_cons.mp accepts
    obtain ⟨d', rest⟩ := ih fun other mem =>
      (others other mem).imp fun q accepts => accepts.pour first.writable file.2.utf8
    exact ⟨d', .cons (first.writeFile _) rest⟩

/-! ## What is there behind them -/

/-- `Stored dir files d d'`: the second disk is the first one with the files in the directory. The
path of each leads to a place where the file is with its bytes, unless a later one is there; all
other places are as before. -/
structure Stored (dir : DiskPath) (files : Table Text) (d d' : Disk) : Prop where
  grows : d.Grows d'
  inside : ∀ before file later, files = before ++ file :: later → ∃ p,
    d'.place (dir.child file.1) = .ok p ∧
      ((∀ other ∈ later, d'.place (dir.child other.1) ≠ .ok p) → d'.Shows p file.2.utf8)
  outside : ∀ q, (∀ file ∈ files, d'.place (dir.child file.1) ≠ .ok q) → d'.entry? q = d.entry? q

/-- One more file in front. -/
theorem Stored.cons (written : d.writeFile (dir.child file.1) file.2.utf8 = .ok d₁)
    (h : Stored dir files d₁ d') : Stored dir (file :: files) d d' := by
  obtain ⟨p, led, writable, rfl⟩ := Disk.writeFile_eq_ok written
  have grows := (Disk.grows_pour writable file.2.utf8).trans h.grows
  have led' := grows.place_eq_ok led
  refine ⟨grows, ?_, ?_⟩
  case refine_1 =>
    intro before other later parts
    cases before with
    | nil =>
      cases parts
      refine ⟨p, led', fun alone => ?_⟩
      rw [Disk.Shows, h.outside p alone]
      exact Disk.shows_pour writable _
    | cons first before =>
      cases parts
      exact h.inside before other later rfl
  case refine_2 =>
    intro q apart
    obtain ⟨elsewhere, others⟩ := List.forall_mem_cons.mp apart
    have ne : q ≠ p := by
      rintro rfl
      exact elsewhere led'
    rw [h.outside q others, Disk.entry?_pour_of_ne ne]

theorem Writes.stored (h : Writes dir files d d') : Stored dir files d d' := by
  induction h with
  | nil d =>
    refine ⟨.refl d, fun before file later parts => ?_, fun _ _ => rfl⟩
    simp at parts
  | cons written _ ih => exact .cons written ih

/-! ## In a directory that is made first -/

/-- `HasText d p text`: a file with the text is at the place, or a device. -/
def HasText (d : Disk) (p : Place) (text : Text) : Prop :=
  ∃ bytes, Utf8.decode bytes = .ok text ∧ d.Shows p bytes

/-- `Holds dir files d d'`: the second disk is the first one with the files in the directory, and
perhaps with more directories. The path of each file leads to a place where the file is with its
text, unless a later one is there. This place is in the directory if the name of the file is its own
there. -/
structure Holds (dir : DiskPath) (files : Table Text) (d d' : Disk) : Prop where
  ground : d'.toGround = d.toGround
  opens : ∃ place, d'.Opens dir place ∧ ∀ file ∈ files, d'.Own place file.1 →
    d'.place (dir.child file.1) = .ok (place ++ [file.1])
  inside : ∀ before file later, files = before ++ file :: later → ∃ p,
    d'.place (dir.child file.1) = .ok p ∧
      ((∀ other ∈ later, d'.place (dir.child other.1) ≠ .ok p) → HasText d' p file.2)
  outside : ∀ q, (∀ file ∈ files, d'.place (dir.child file.1) ≠ .ok q) →
    d'.entry? q = d.entry? q ∨ d.entry? q = none ∧ d'.entry? q = some .directory

/-- From what a run of writes does to what the directory holds behind it. -/
theorem Stored.holds (h : Stored dir files d₁ d') (wider : d.Widens d₁)
    (opens : d₁.Opens dir place) (plain : ∀ file ∈ files, Plain file.1)
    (encodable : ∀ file ∈ files, file.2.isEncodable) : Holds dir files d d' where
  ground := h.grows.ground.trans wider.ground
  opens := by
    refine ⟨place, h.grows.opens opens, fun file mem own => ?_⟩
    obtain ⟨before, later, parts⟩ := List.append_of_mem mem
    obtain ⟨p, led, -⟩ := h.inside before file later parts
    rw [led, Disk.place_eq_of_own (h.grows.opens opens) led (plain file mem) own]
  inside before file later parts := by
    obtain ⟨p, led, shows⟩ := h.inside before file later parts
    have mem : file ∈ files := by simp [parts]
    exact ⟨p, led, fun alone => ⟨_, Utf8.decode_utf8 (encodable file mem), shows alone⟩⟩
  outside q apart := by
    rw [h.outside q apart]
    exact wider.entry q

/-- A project is stored, or the files before one that is refused. -/
theorem store_cases (noZero : dir.hasZero = false) (made : d.ensureDirectories dir = .ok d₁)
    (files : Table Text) :
    ((store d dir files).2.2 = none ∧ Writes dir files d₁ (store d dir files).1) ∨
    ((store d dir files).2.2 ≠ none ∧
      ∃ done d₂, Halts dir files done d₂ d₁ (store d dir files).1) := by
  simpa only [store, noZero, made, Bool.false_eq_true, if_false, ne_eq, Option.map_eq_none_iff]
    using writeFiles_cases d₁ dir files

theorem store_of_writes (noZero : dir.hasZero = false) (made : d.ensureDirectories dir = .ok d₁)
    (h : Writes dir files d₁ d') : (store d dir files).2.2 = none ∧ (store d dir files).1 = d' := by
  simpa only [store, noZero, made, Bool.false_eq_true, if_false, Option.map_eq_none_iff]
    using writeFiles_of_writes h

theorem Writes.holds (h : Writes dir files d₁ d') (made : d.ensureDirectories dir = .ok d₁)
    (plain : ∀ file ∈ files, Plain file.1) (encodable : ∀ file ∈ files, file.2.isEncodable) :
    Holds dir files d d' := by
  have ensured := Disk.ensured_ensureDirectories d dir
  rw [made] at ensured
  obtain ⟨wider, place, opens⟩ := ensured
  exact h.stored.holds wider opens plain encodable

/-- Nothing but directories is new if there is an error before the first file. -/
theorem widens_store (h : dir.hasZero ∨ ∃ e, d.ensureDirectories dir = .error e) :
    d.Widens (store d dir files).1 ∧ (store d dir files).2.2 ≠ none := by
  by_cases zero : dir.hasZero
  · simp only [store, zero, if_true]
    exact ⟨.refl d, by simp⟩
  · obtain ⟨e, error⟩ := h.resolve_left zero
    have ensured := Disk.ensured_ensureDirectories d dir
    rw [error] at ensured
    simp only [store, zero, error]
    exact ⟨ensured, by simp⟩

end Console

end AgentWorkflow
