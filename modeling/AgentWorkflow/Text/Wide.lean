import AgentWorkflow.Text.Basic

/-!
# Wide encodings

JSON may also come in units of two or four bytes. It begins with a character of ASCII, so where the
first bytes have a zero tells how wide the units are and which of their bytes comes first. In units
of two bytes a pair of surrogates stands for one character; unpaired surrogates are kept.
-/

namespace AgentWorkflow

/-- An encoding in units of several bytes, the byte of highest value first or last. -/
inductive WideEncoding
  | two (highFirst : Bool)
  | four (highFirst : Bool)
deriving DecidableEq

namespace WideEncoding

/-- The encoding of JSON that bytes show, none for units of a single byte. -/
def ofJson? : List UInt8 → Option WideEncoding
  | [a, b] => if a = 0 then some (.two true) else if b = 0 then some (.two false) else none
  | a :: b :: c :: d :: _ =>
    if a = 0 then some (if b = 0 then .four true else .two true)
    else if b = 0 then some (if c = 0 && d = 0 then .four false else .two false)
    else none
  | _ => none

/-- The number that bytes spell, the one of highest value first. -/
def number (bytes : List UInt8) : Nat := bytes.foldl (fun n b => n * 0x100 + b.toNat) 0

/-- The numbers of the units of two bytes, none if a byte is left over. -/
def pairs? (highFirst : Bool) : List UInt8 → Option (List Nat)
  | [] => some []
  | [_] => none
  | a :: b :: rest =>
    (number (if highFirst then [a, b] else [b, a]) :: ·) <$> pairs? highFirst rest

/-- The numbers of the units of four bytes, none if bytes are left over. -/
def quads? (highFirst : Bool) : List UInt8 → Option (List Nat)
  | [] => some []
  | a :: b :: c :: d :: rest =>
    (number (if highFirst then [a, b, c, d] else [d, c, b, a]) :: ·) <$> quads? highFirst rest
  | _ => none

/-- The text of units of two bytes: a high surrogate and the low one behind it are joined. -/
def joinSurrogates : List Nat → Text
  | [] => []
  | [n] => [CodePoint.ofNat n]
  | high :: low :: rest =>
    if 0xD800 ≤ high && high < 0xDC00 && 0xDC00 ≤ low && low < 0xE000 then
      CodePoint.ofNat (0x10000 + (high - 0xD800) * 0x400 + (low - 0xDC00)) :: joinSurrogates rest
    else CodePoint.ofNat high :: joinSurrogates (low :: rest)

/-- The text that bytes spell, none if they do not spell one. -/
def decode? (e : WideEncoding) (bytes : List UInt8) : Option Text :=
  match e with
  | .two highFirst => (pairs? highFirst bytes).map joinSurrogates
  | .four highFirst => do
    let numbers ← quads? highFirst bytes
    if numbers.all (· < 0x110000) then some (numbers.map CodePoint.ofNat) else none

example : (ofJson? [0x31, 0]).bind (·.decode? [0x31, 0]) = some ("1" : Text) := by decide
example : decode? (.two true) [0xD8, 0x3D, 0xDE, 0x00] = some [CodePoint.ofNat 0x1F600] := by decide
example : decode? (.four false) [0x31, 0, 0, 0, 0] = none := by decide

end WideEncoding

end AgentWorkflow
