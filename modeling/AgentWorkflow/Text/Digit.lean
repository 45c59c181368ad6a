import AgentWorkflow.Text.Blank

/-!
# Decimal digits of every script

The decimal digits of Unicode 14 come in runs of ten. Text that is to be read as a number is first
brought to plain digits and spaces, so that every script's digits count.
-/

namespace AgentWorkflow

/-- The zeros of the scripts beyond ASCII, each followed by its nine other digits. -/
def digitZeros : List Nat :=
  [0x660, 0x6F0, 0x7C0, 0x966, 0x9E6, 0xA66, 0xAE6, 0xB66, 0xBE6, 0xC66, 0xCE6, 0xD66, 0xDE6,
   0xE50, 0xED0, 0xF20, 0x1040, 0x1090, 0x17E0, 0x1810, 0x1946, 0x19D0, 0x1A80, 0x1A90, 0x1B50,
   0x1BB0, 0x1C40, 0x1C50, 0xA620, 0xA8D0, 0xA900, 0xA9D0, 0xA9F0, 0xAA50, 0xABF0, 0xFF10,
   0x104A0, 0x10D30, 0x11066, 0x110F0, 0x11136, 0x111D0, 0x112F0, 0x11450, 0x114D0, 0x11650,
   0x116C0, 0x11730, 0x118E0, 0x11950, 0x11C50, 0x11D50, 0x11DA0, 0x16A60, 0x16AC0, 0x16B50,
   0x1D7CE, 0x1D7D8, 0x1D7E2, 0x1D7EC, 0x1D7F6, 0x1E140, 0x1E2F0, 0x1E950, 0x1FBF0]

/-- A point brought to its plain form: a decimal digit of any script to the ASCII digit, a blank
beyond ASCII to a space, and any other point as it is. -/
def CodePoint.plain (c : CodePoint) : CodePoint :=
  if c.val < 0x7F then c
  else if c.isBlank then ' '
  else match digitZeros.find? (fun z => z ≤ c.val && c.val ≤ z + 9) with
    | some z => CodePoint.ofNat (0x30 + (c.val - z))
    | none => c

/-- A blank that may surround a number in plain form. -/
def CodePoint.padsNumber (c : CodePoint) : Bool :=
  c.val = 0x20 || (0x09 ≤ c.val && c.val ≤ 0x0D)

/-- The text in plain form, without the blanks around it. -/
def Text.plainNumber (t : Text) : Text :=
  Text.trimBy CodePoint.padsNumber (t.map CodePoint.plain)

example : Text.plainNumber [CodePoint.ofNat 0xA0, CodePoint.ofNat 0x663] = ("3" : Text) := by
  decide +kernel

end AgentWorkflow
