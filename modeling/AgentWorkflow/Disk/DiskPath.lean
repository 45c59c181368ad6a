import AgentWorkflow.Text.Utf8

/-!
# Paths

A path is a root, which is empty for a relative path, and the names below it. Empty names and
single dots are dropped when a path is read; two dots are kept, because what they lead to depends
on the disk.
-/

namespace AgentWorkflow

/-- A path. The root of an absolute path is one slash, or two where exactly two are given. -/
structure DiskPath where
  root : Text
  names : List Text
deriving DecidableEq

namespace DiskPath

def rootOf (t : Text) : Text :=
  let slashes := t.takeWhile fun (c : CodePoint) => c = '/'
  if slashes.length ≤ 2 then slashes else "/"

/-- The path that a text gives. -/
def ofText (t : Text) : DiskPath where
  root := rootOf t
  names := (Text.splitOn '/' t).filter fun n => !n.isEmpty && n ≠ ("." : Text)

/-- The path in text; a dot stands for the empty path. -/
def text (p : DiskPath) : Text :=
  if p.root.isEmpty && p.names.isEmpty then "." else p.root ++ Text.join "/" p.names

def child (p : DiskPath) (name : Text) : DiskPath := { p with names := p.names ++ [name] }

/-- True of a path that no disk can hold, because a zero ends paths there. -/
def hasZero (p : DiskPath) : Bool := p.names.any fun n => n.any fun c => c.val = 0

example : (ofText "./a//b/./c/").text = ("a/b/c" : Text) := by decide
example : (ofText "").text = ("." : Text) := by decide

end DiskPath

end AgentWorkflow
