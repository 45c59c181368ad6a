import AgentWorkflow.Disk.DiskPath

/-!
# The disk

A tree of directories, files, links and devices, with the directory in which relative paths begin. A
place on the disk is the list of names that lead to it from the top. A file may have several names,
of which one is its place.

Paths are followed name by name. A link on the way is followed too, so that two dots lead to the
parent of what is really there. Whatever a run wants of a place can be refused, and of what it
writes a part only may be kept: who may do what, and how full the disk is, is as much a part of the
disk as what is on it.

Nobody else changes the disk during a run, and an operation comes to an end.
-/

namespace AgentWorkflow

abbrev Place := List Text

/-- What can be at a place. A link has the path that it leads to, in which single dots may be left.
A device has what is read from it, and keeps nothing that is written to it. -/
inductive Entry
  | directory
  | file (content : List UInt8)
  | link (target : DiskPath)
  | device (reads : List UInt8)
deriving DecidableEq

/-- Why an operation fails: the number of the fault, and what is said of it in one line. -/
structure DiskFault where
  number : Nat
  message : Text
  told : message ≠ [] ∧ message.lacks '\n'
deriving DecidableEq

namespace DiskFault

def notFound : DiskFault := ⟨2, "No such file or directory", by decide⟩
def alreadyThere : DiskFault := ⟨17, "File exists", by decide⟩
def notDirectory : DiskFault := ⟨20, "Not a directory", by decide⟩
def isDirectory : DiskFault := ⟨21, "Is a directory", by decide⟩
def nameTooLong : DiskFault := ⟨36, "File name too long", by decide⟩
def tooManyLinks : DiskFault := ⟨40, "Too many levels of symbolic links", by decide⟩

/-- True of a fault that is taken for the answer that nothing is there. -/
def isAbsence (f : DiskFault) : Bool := [2, 9, 20, 40].contains f.number

end DiskFault

/-- What can be wanted of a place: to go on from the directory or the link there, to learn what is
there, to list it, to read it, to make something there, or to open what is there for writing. -/
inductive Access
  | enter
  | look
  | list
  | read
  | make
  | write
deriving DecidableEq

/-- What no run changes of a disk: the directory in which relative paths begin, the further names of
files with the places of these, what is refused, and what becomes of bytes that are written to a
place: none if all are kept, else how many are and the fault. The latter depends on what is on the
disk. -/
structure Ground where
  home : Place
  names : List (Place × Place) := []
  refusal : Access → Place → Option DiskFault := fun _ _ => none
  shortage : List (Place × Entry) → Place → Nat → Option (Nat × DiskFault) := fun _ _ _ => none

structure Disk extends Ground where
  entries : List (Place × Entry)

/-- Where names lead: to a place, or to a link with the names behind it. -/
inductive Stretch
  | place (p : Place)
  | link (directory there : Place) (target : DiskPath) (rest : List Text)

namespace Disk

def nameLimit : Nat := 255

/-- The number of bytes from which on a path is too long. -/
def pathLimit : Nat := 4096

/-- The most links that are followed on one path. -/
def linkLimit : Nat := 40

/-- What is at a place. The directories around the home are always there. -/
def entry? (d : Disk) (place : Place) : Option Entry :=
  if place.isPrefixOf d.home then some .directory else d.entries.lookup place

/-- The entries with one more, or with another in its place. -/
def setEntry (place : Place) (entry : Entry) : List (Place × Entry) → List (Place × Entry)
  | [] => [(place, entry)]
  | (p, e) :: rest =>
    if p = place then (place, entry) :: rest else (p, e) :: setEntry place entry rest

def put (d : Disk) (place : Place) (entry : Entry) : Disk :=
  { d with entries := setEntry place entry d.entries }

def placeOf (d : Disk) (name : Place) : Place := (d.names.lookup name).getD name

/-- Lets an access through unless it is refused. -/
def permit (d : Disk) (a : Access) (place : Place) : Except DiskFault Unit :=
  match d.refusal a place with
  | some fault => .error fault
  | none => .ok ()

/-! ## Following paths -/

/-- The place of what a name means in a directory. -/
def next (d : Disk) (directory : Place) (name : Text) : Place :=
  if name = "." then directory
  else if name = ".." then directory.dropLast
  else d.placeOf (directory ++ [name])

def step (d : Disk) (place : Place) (name : Text) : Except DiskFault Place :=
  match d.entry? place with
  | some .directory => do
    d.permit .enter place
    if nameLimit < name.utf8.length then .error .nameTooLong else return d.next place name
  | some _ => .error .notDirectory
  | none => .error .notFound

/-- Where the link at a place leads, if one is there. -/
def target? (d : Disk) (place : Place) : Option DiskPath :=
  match d.entry? place with
  | some (.link target) => some target
  | _ => none

/-- Follows names from a place up to the first link. -/
def walk (d : Disk) (place : Place) : List Text → Except DiskFault Stretch
  | [] => .ok (.place place)
  | name :: rest => do
    let there ← d.step place name
    match d.target? there with
    | some target => return .link place there target rest
    | none => d.walk there rest

/-- The place where a path begins that stands in a directory. -/
def start (directory : Place) (p : DiskPath) : Place := if p.root.isEmpty then directory else []

/-- Follows names from a place, and at most the given number of links. What is at the end may be
missing. -/
def follow (d : Disk) : Nat → Place → List Text → Except DiskFault Place
  | 0, place, names => do
    match ← d.walk place names with
    | .place there => return there
    | .link _ _ _ _ => .error .tooManyLinks
  | links + 1, place, names => do
    match ← d.walk place names with
    | .place there => return there
    | .link directory there target rest =>
      d.permit .enter there
      d.follow links (start directory target) (target.names ++ rest)

def place (d : Disk) (p : DiskPath) : Except DiskFault Place :=
  if pathLimit ≤ p.text.utf8.length then .error .nameTooLong
  else d.follow linkLimit (start d.home p) p.names

/-- The place that a path names. It is the same unless a link is there, which is not followed. -/
def seat (d : Disk) (p : DiskPath) : Except DiskFault Place :=
  if pathLimit ≤ p.text.utf8.length then .error .nameTooLong
  else match p.names.getLast? with
    | none => .ok (start d.home p)
    | some name => do d.step (← d.follow linkLimit (start d.home p) p.names.dropLast) name

end Disk

end AgentWorkflow
