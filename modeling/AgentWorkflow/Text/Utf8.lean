import AgentWorkflow.Text.Basic

/-!
# UTF-8

Writing a text as bytes and reading bytes back as text. Reading stops at the first byte that
rules the input out and says which bytes are at fault and why.
-/

namespace AgentWorkflow

/-- The bytes of one code point. A surrogate is written like any point of its size. -/
def CodePoint.utf8 (c : CodePoint) : List UInt8 :=
  let n := c.val
  if n < 0x80 then [n.toUInt8]
  else if n < 0x800 then [(0xC0 + n / 0x40).toUInt8, (0x80 + n % 0x40).toUInt8]
  else if n < 0x10000 then
    [(0xE0 + n / 0x1000).toUInt8, (0x80 + n / 0x40 % 0x40).toUInt8, (0x80 + n % 0x40).toUInt8]
  else
    [(0xF0 + n / 0x40000).toUInt8, (0x80 + n / 0x1000 % 0x40).toUInt8,
      (0x80 + n / 0x40 % 0x40).toUInt8, (0x80 + n % 0x40).toUInt8]

def Text.utf8 (t : Text) : List UInt8 := t.flatMap CodePoint.utf8

namespace Utf8

/-- Why bytes are not UTF-8. -/
inductive Cause
  | invalidStart
  | invalidContinuation
  | unexpectedEnd
deriving DecidableEq

/-- The first `count` bytes from `position` on cannot be read. `byte` is the first of them. -/
structure Fault where
  position : Nat
  count : Nat
  byte : UInt8
  cause : Cause
deriving DecidableEq

def Cause.message : Cause → Text
  | .invalidStart => "invalid start byte"
  | .invalidContinuation => "invalid continuation byte"
  | .unexpectedEnd => "unexpected end of data"

/-- The fault in words. One byte is shown, several are located. -/
def Fault.message (f : Fault) : Text :=
  let place : Text :=
    if f.count = 1 then
      ("byte 0x" : Text) ++ Text.hex 2 f.byte.toNat ++ " in position " ++ Text.ofNat f.position
    else
      ("bytes in position " : Text) ++ Text.ofNat f.position ++ "-"
        ++ Text.ofNat (f.position + f.count - 1)
  ("'utf-8' codec can't decode " : Text) ++ place ++ ": " ++ f.cause.message

/-- What a first byte announces: the bits it carries, the range of the second byte, and the number
of bytes after the second. -/
structure Lead where
  bits : Nat
  low : Nat
  high : Nat
  more : Nat

/-- The announcement of a first byte above `0x7F`. The narrowed second bytes keep out overlong
forms, surrogates and numbers past the last code point. -/
def lead? (b : Nat) : Option Lead :=
  if b < 0xC2 then none
  else if b < 0xE0 then some ⟨b - 0xC0, 0x80, 0xBF, 0⟩
  else if b = 0xE0 then some ⟨0, 0xA0, 0xBF, 1⟩
  else if b = 0xED then some ⟨0xD, 0x80, 0x9F, 1⟩
  else if b < 0xF0 then some ⟨b - 0xE0, 0x80, 0xBF, 1⟩
  else if b = 0xF0 then some ⟨0, 0x90, 0xBF, 2⟩
  else if b < 0xF4 then some ⟨b - 0xF0, 0x80, 0xBF, 2⟩
  else if b = 0xF4 then some ⟨4, 0x80, 0x8F, 2⟩
  else none

/-- Where a reader stands: between characters, or inside one that began at `position` with the
byte `first`, of which `read` bytes are read and `more` are to follow the next. -/
inductive State
  | between
  | inside (position : Nat) (first : UInt8) (read bits low high more : Nat)

/-- Reads bytes, the first of them at `position`. -/
def decodeFrom (position : Nat) : State → List UInt8 → Except Fault Text
  | .between, [] => .ok []
  | .inside start first read _ _ _ _, [] => .error ⟨start, read, first, .unexpectedEnd⟩
  | .between, b :: rest =>
    if b.toNat < 0x80 then
      (CodePoint.ofNat b.toNat :: ·) <$> decodeFrom (position + 1) .between rest
    else match lead? b.toNat with
      | none => .error ⟨position, 1, b, .invalidStart⟩
      | some l => decodeFrom (position + 1) (.inside position b 1 l.bits l.low l.high l.more) rest
  | .inside start first read bits low high more, b :: rest =>
    if low ≤ b.toNat && b.toNat ≤ high then
      let bits := bits * 0x40 + (b.toNat - 0x80)
      match more with
      | 0 => (CodePoint.ofNat bits :: ·) <$> decodeFrom (position + 1) .between rest
      | m + 1 =>
        decodeFrom (position + 1) (.inside start first (read + 1) bits 0x80 0xBF m) rest
    else .error ⟨start, read, first, .invalidContinuation⟩

def decode (bytes : List UInt8) : Except Fault Text := decodeFrom 0 .between bytes

example : (decode [0xC3, 0xA9]).toOption = some [CodePoint.ofNat 0xE9] := by decide
example : (decode [0xED, 0xA0, 0x80]).toOption = none := by decide

end Utf8

end AgentWorkflow
