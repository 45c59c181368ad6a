import AgentWorkflow.Text.Basic

/-!
# URLs

A request is sent to a URL, of which the service sees the path. A URL may leave out the scheme and
the authority; what it says then counts from the service's root. Dots in the path are resolved, and
escaped points stand for themselves.
-/

namespace AgentWorkflow

/-- The parts of a URL in front of its query. A part that is not there is empty. -/
structure Url where
  scheme : Text
  authority : Text
  path : Text
deriving DecidableEq

namespace Url

def isSchemePoint (c : CodePoint) : Bool := c.isAlnum || c = '+' || c = '.' || c = '-'

/-- A text cut behind the name of its scheme and the colon there. The name begins with a letter,
or it is empty. -/
def cutScheme (t : Text) : Text × Text :=
  let name := t.takeWhile isSchemePoint
  match t.drop name.length with
  | c :: rest =>
    if c = ':' && (name.head?.map CodePoint.isLetter).getD true then (name, rest) else ([], t)
  | [] => ([], t)

/-- A text cut behind its authority, which stands between two slashes and the next one. -/
def cutAuthority (t : Text) : Text × Text :=
  match Text.after? "//" t with
  | some rest => (rest.takeWhile fun (c : CodePoint) => c ≠ '/',
      rest.dropWhile fun (c : CodePoint) => c ≠ '/')
  | none => ([], t)

/-- The parts of a URL in text, without its query and its fragment. -/
def ofText (t : Text) : Url :=
  let (scheme, rest) := cutScheme (t.takeWhile fun (c : CodePoint) => c ≠ '?' && c ≠ '#')
  let (authority, path) := cutAuthority rest
  { scheme, authority, path }

/-- The names of a path after one more name. A dot is dropped; two dots drop the name before, but
never the empty name at the root. -/
def resolveStep (names : List Text) (name : Text) : List Text :=
  if name = ("." : Text) then names
  else if name = (".." : Text) then if names = [] || names = [[]] then names else names.dropLast
  else names ++ [name]

/-- A path without the names that are dots. -/
def withoutDots (path : Text) : Text :=
  Text.join "/" ((Text.splitOn '/' path).foldl resolveStep [])

/-- A text with every escape replaced by the point that has its number. Escapes of bytes above
ASCII only need to stay outside ASCII. -/
def unescaped : Text → Text
  | c :: d :: e :: rest =>
    if c = '%' then
      match d.hexValue?, e.hexValue? with
      | some high, some low => CodePoint.ofNat (high * 16 + low) :: unescaped rest
      | _, _ => c :: unescaped (d :: e :: rest)
    else c :: unescaped (d :: e :: rest)
  | t => t

/-- The path of a URL counted from the root. -/
def absolutePath (u : Url) : Text :=
  let path := if u.scheme.isEmpty && u.authority.isEmpty then u.path else withoutDots u.path
  if u.scheme.isEmpty || u.authority.isEmpty then
    withoutDots (("/" : Text) ++ path.dropWhile fun (c : CodePoint) => c = '/')
  else path

/-- The path that the service sees. Escapes are resolved twice, once by the sender and once more
when the request arrives. -/
def seenPath (u : Url) : Text := unescaped (unescaped u.absolutePath)

example : (ofText "/a/../he%61lth?b#c").seenPath = ("/health" : Text) := by decide +kernel
example : (ofText "http://host/./health").seenPath = ("/health" : Text) := by decide +kernel
example : (ofText "//health").seenPath = ("/" : Text) := by decide +kernel

end Url

end AgentWorkflow
