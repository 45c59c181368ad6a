/-!
# Text

A text is a list of Unicode code points. Workflow documents may carry unpaired surrogates, so a
code point is any number below `0x110000`; a text is *encodable* when none of its points is a
surrogate. Character and string literals stand for the code points they spell.
-/

namespace AgentWorkflow

/-- A Unicode code point, surrogates included. -/
structure CodePoint where
  val : Nat
  val_lt : val < 0x110000
deriving DecidableEq

/-- A text: code points in order. -/
abbrev Text := List CodePoint

namespace CodePoint

def ofChar (c : Char) : CodePoint :=
  ⟨c.toNat, by
    have h := c.valid
    simp only [UInt32.isValidChar, Nat.isValidChar] at h
    simp only [Char.toNat]
    omega⟩

instance : Coe Char CodePoint := ⟨ofChar⟩

/-- The code point numbered `n`; the replacement character stands for a number out of range. -/
def ofNat (n : Nat) : CodePoint :=
  if h : n < 0x110000 then ⟨n, h⟩ else ⟨0xFFFD, by decide⟩

/-- Half of a pair that stands for one character above `0xFFFF`. -/
def isSurrogate (c : CodePoint) : Bool := 0xD800 ≤ c.val && c.val ≤ 0xDFFF

/-- The half that comes second in a pair. -/
def isLowSurrogate (c : CodePoint) : Bool := 0xDC00 ≤ c.val && c.val ≤ 0xDFFF

/-- `a` to `z`. -/
def isLower (c : CodePoint) : Bool := 0x61 ≤ c.val && c.val ≤ 0x7A

/-- `A` to `Z`. -/
def isUpper (c : CodePoint) : Bool := 0x41 ≤ c.val && c.val ≤ 0x5A

/-- `0` to `9`. -/
def isDigit (c : CodePoint) : Bool := 0x30 ≤ c.val && c.val ≤ 0x39

/-- An ASCII letter. -/
def isLetter (c : CodePoint) : Bool := c.isLower || c.isUpper

/-- An ASCII letter or digit. -/
def isAlnum (c : CodePoint) : Bool := c.isLetter || c.isDigit

/-- An ASCII capital in lower case; any other point as it is. -/
def asciiLower (c : CodePoint) : CodePoint := if c.isUpper then ofNat (c.val + 32) else c

/-- A small ASCII letter in upper case; any other point as it is. -/
def asciiUpper (c : CodePoint) : CodePoint := if c.isLower then ofNat (c.val - 32) else c

/-- The value of an ASCII digit. -/
def digitValue (c : CodePoint) : Nat := c.val - 0x30

/-- The value of an ASCII hexadecimal digit. -/
def hexValue? (c : CodePoint) : Option Nat :=
  if c.isDigit then some (c.val - 0x30)
  else if 0x61 ≤ c.val && c.val ≤ 0x66 then some (c.val - 0x57)
  else if 0x41 ≤ c.val && c.val ≤ 0x46 then some (c.val - 0x37)
  else none

@[simp] theorem val_ofChar (c : Char) : (ofChar c).val = c.toNat := rfl

theorem val_ofNat {n : Nat} (h : n < 0x110000) : (ofNat n).val = n := by simp [ofNat, h]

end CodePoint

/-- Membership in a union of inclusive ranges given in increasing order. -/
def inRanges (n : Nat) : List (Nat × Nat) → Bool
  | [] => false
  | (first, last) :: ranges =>
    if n < first then false else if n ≤ last then true else inRanges n ranges

namespace Text

def ofString (s : String) : Text := s.toList.map CodePoint.ofChar

instance : Coe String Text := ⟨ofString⟩

/-- To evaluate the text of a long string, rewrite with this first: the kernel reads a string
literal as its list of characters at once, and decodes it byte by byte otherwise. -/
theorem ofString_ofList (cs : List Char) : ofString (String.ofList cs) = cs.map CodePoint.ofChar := by
  rw [ofString, String.toList_ofList]

/-- True of a text that has no unpaired surrogate, which is one that UTF-8 can write. -/
def isEncodable (t : Text) : Bool := t.all (!·.isSurrogate)

/-- The texts one after another, with `separator` between neighbours. -/
def join (separator : Text) (parts : List Text) : Text := separator.intercalate parts

/-- A number in decimal. -/
def ofNat (n : Nat) : Text := (Nat.toDigits 10 n).map CodePoint.ofChar

/-- An integer in decimal, with a minus sign when negative. -/
def ofInt : Int → Text
  | .ofNat n => ofNat n
  | .negSucc n => ("-" : Text) ++ ofNat (n + 1)

/-- A number in lower-case hexadecimal, with zeros in front up to `width` digits. -/
def hex (width n : Nat) : Text :=
  let digits := (Nat.toDigits 16 n).map CodePoint.ofChar
  List.replicate (width - digits.length) ('0' : CodePoint) ++ digits

/-- True of a text in which a character does not occur. -/
def lacks (t : Text) (ch : Char) : Bool := t.all (· ≠ ch)

/-- Every occurrence of a point replaced by a text. -/
def replace (old : CodePoint) (new : Text) (t : Text) : Text :=
  t.flatMap fun c => if c = old then new else [c]

/-- What follows `start` in a text that starts with it. -/
def after? : Text → Text → Option Text
  | [], t => some t
  | _ :: _, [] => none
  | p :: ps, c :: t => if p = c then after? ps t else none

/-- The pieces between the occurrences of a separator; there is always at least one. -/
def splitOn (separator : CodePoint) : Text → List Text
  | [] => [[]]
  | c :: rest =>
    if c = separator then [] :: splitOn separator rest
    else match splitOn separator rest with
      | [] => [[c]]
      | piece :: pieces => (c :: piece) :: pieces

/-- The stretches of points that satisfy `p`, where `current` is the one being read, last point
first. -/
def runsFrom (p : CodePoint → Bool) (current : Text) : Text → List Text
  | [] => if current.isEmpty then [] else [current.reverse]
  | c :: rest =>
    if p c then runsFrom p (c :: current) rest
    else if current.isEmpty then runsFrom p [] rest
    else current.reverse :: runsFrom p [] rest

/-- The longest non-empty stretches of points that satisfy `p`, in order. -/
def runs (p : CodePoint → Bool) (t : Text) : List Text := runsFrom p [] t

/-- The text without the points at either end that satisfy `p`. -/
def trimBy (p : CodePoint → Bool) (t : Text) : Text :=
  ((t.dropWhile p).reverse.dropWhile p).reverse

/-- Each line followed by a line feed. -/
def unlines (lines : List Text) : Text := lines.flatMap (· ++ ("\n" : Text))

theorem unlines_cons (line : Text) (lines : List Text) :
    unlines (line :: lines) = (line ++ ("\n" : Text)) ++ unlines lines := rfl

theorem unlines_append (lines more : List Text) :
    unlines (lines ++ more) = unlines lines ++ unlines more := List.flatMap_append

example : splitOn ',' "a,,b" = (["a", "", "b"] : List Text) := by decide
example : runs CodePoint.isDigit "a12-3" = (["12", "3"] : List Text) := by decide
example : hex 4 0xAB = ("00ab" : Text) := by decide
example : ofInt (-120) = ("-120" : Text) := by decide

end Text

end AgentWorkflow
