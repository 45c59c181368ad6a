import AgentWorkflow.Proofs.Console.Writing
import AgentWorkflow.Proofs.Project.Files

/-!
# Storing a project

A directory is *fresh* when nothing is at its path, it can be made, it is empty then, and the disk
takes the files of a project there. The files of a project can be stored in a fresh directory,
whatever else is on the disk.

Results:
1. `store_of_fresh`: a project can be stored in a fresh directory.
2. `fresh_of_new`: a new name in a directory is a fresh directory.
-/

namespace AgentWorkflow

namespace Console

open Disk (Plain)

variable {d : Disk} {dir : DiskPath} {place : Place} {name : Text}

/-- `Yields g place names`: nothing is refused to files of these names in the directory at a place,
and there is room for them, whatever is on the disk. -/
structure Yields (g : Ground) (place : Place) (names : List Text) : Prop where
  entered : g.refusal .enter place = none
  made : ∀ name ∈ names, g.refusal .make (place ++ [name]) = none
  written : ∀ name ∈ names, g.refusal .write (place ++ [name]) = none
  filled : ∀ name ∈ names, ∀ entries length, g.shortage entries (place ++ [name]) length = none

/-- In an empty directory, files of plain names can be written. -/
theorem accepts_of_empty (opens : d.Opens dir place) (empty : d.hasEntries place = false)
    {names : List Text} (yields : Yields d.toGround place names) (mem : name ∈ names)
    (plain : Plain name) (room : (dir.child name).text.utf8.length < Disk.pathLimit) :
    d.Accepts (dir.child name) (place ++ [name]) := by
  have own := Disk.placeOf_of_not_hasEntries empty name
  have loose : d.Loose (place ++ [name]) := .inl (Disk.entry?_of_not_hasEntries empty name)
  have stepped := Disk.step_plain opens.directory yields.entered plain own
  exact ⟨Disk.place_child opens stepped (Disk.target?_of_loose loose) room, .inl loose,
    yields.made name mem, yields.written name mem, yields.filled name mem⟩

/-- Nothing is at the path, and the disk takes a directory there with the files of a project. -/
structure Fresh (d : Disk) (dir : DiskPath) : Prop where
  noZero : dir.hasZero = false
  missing : ∃ fault, d.find dir = .error fault ∧ fault.isAbsence
  made : ∃ d' place, d.ensureDirectories dir = .ok d' ∧ d'.Opens dir place ∧
    d'.hasEntries place = false ∧ Yields d'.toGround place Project.fileNames
  room : ∀ name ∈ Project.fileNames, (dir.child name).text.utf8.length < Disk.pathLimit

theorem plain_of_mem_fileNames (mem : name ∈ Project.fileNames) : Plain name := by
  have all : ∀ name ∈ Project.fileNames,
      name ≠ "." ∧ name ≠ ".." ∧ name.utf8.length ≤ Disk.nameLimit := by decide +kernel
  obtain ⟨noDot, noDots, short⟩ := all name mem
  exact ⟨noDot, noDots, short⟩

theorem store_of_fresh (h : Fresh d dir) {files : Table Text}
    (known : ∀ file ∈ files, file.1 ∈ Project.fileNames) : (store d dir files).2.2 = none := by
  obtain ⟨d₁, place, made, opens, empty, yields⟩ := h.made
  obtain ⟨d₂, writes⟩ := writes_of_accepts fun file mem =>
    ⟨_, accepts_of_empty opens empty yields (known file mem)
      (plain_of_mem_fileNames (known file mem)) (h.room _ (known file mem))⟩
  exact (store_of_writes h.noZero made writes).1

theorem isOccupied_of_fresh (h : Fresh d dir) : isOccupied d dir = .ok false := by
  obtain ⟨fault, missing, absence⟩ := h.missing
  simp only [isOccupied, h.noZero, missing, absence]
  rfl

/-- True of a ground on which nothing is refused and that is never full. -/
structure Lenient (g : Ground) : Prop where
  refusal : ∀ a p, g.refusal a p = none
  shortage : ∀ entries p length, g.shortage entries p length = none

theorem Lenient.yields {g : Ground} (h : Lenient g) (place : Place) (names : List Text) :
    Yields g place names :=
  ⟨h.refusal _ _, fun _ _ => h.refusal _ _, fun _ _ => h.refusal _ _, fun _ _ _ _ => h.shortage _ _ _⟩

theorem Lenient.accepts (h : Lenient d.toGround) {path : DiskPath} {p : Place}
    (led : d.place path = .ok p) (loose : d.Loose p) : d.Accepts path p :=
  ⟨led, .inl loose, h.refusal _ _, h.refusal _ _, fun _ _ => h.shortage _ _ _⟩

/-- A directory can be made under a name that is new in another one. -/
theorem fresh_of_new (lenient : Lenient d.toGround) (rooted : d.IsRooted)
    (opens : d.Opens dir place) (own : d.placeOf (place ++ [name]) = place ++ [name])
    (new : d.entry? (place ++ [name]) = none) (plain : Plain name)
    (noZero : (dir.child name).hasZero = false)
    (room : ∀ file ∈ Project.fileNames,
      ((dir.child name).child file).text.utf8.length < Disk.pathLimit)
    (short : (dir.child name).text.utf8.length < Disk.pathLimit) : Fresh d (dir.child name) := by
  have loose : d.Loose (place ++ [name]) := .inl new
  have wider := Disk.widens_put new
  have stepped := Disk.step_plain opens.directory (lenient.refusal _ _) plain own
  have there := Disk.place_child opens stepped (Disk.target?_of_loose loose) short
  have made : d.makeDirectory (dir.child name) = .ok (d.put (place ++ [name]) .directory) := by
    have seat := Disk.seat_child opens stepped short
    have free : d.permit .make (place ++ [name]) = .ok () :=
      Disk.permit_eq_ok.mpr (lenient.refusal _ _)
    simp only [Disk.makeDirectory, seat, new, free, bind, Except.bind, pure, Except.pure]
  have ensured : d.ensureDirectories (dir.child name)
      = .ok (d.put (place ++ [name]) .directory) := by
    have names : (dir.child name).names.reverse = name :: dir.names.reverse := by
      simp [DiskPath.child]
    have path : (⟨(dir.child name).root, (name :: dir.names.reverse).reverse⟩ : DiskPath)
        = dir.child name := by
      simp [DiskPath.child]
    simp only [Disk.ensureDirectories, names, Disk.ensureNames, path, Disk.ensureAt,
      Disk.ensureDirectory, made, Except.mapError_ok]
  refine ⟨noZero, ⟨.notFound, ?_, by decide⟩, ⟨_, place ++ [name], ensured,
    ⟨wider.grows.place_eq_ok there, Disk.entry?_put_self loose.ne_directory _⟩,
    Disk.hasEntries_put rooted new (by simp), lenient.yields _ _⟩, room⟩
  simp [Disk.find, there, new, bind, Except.bind]

end Console

end AgentWorkflow
