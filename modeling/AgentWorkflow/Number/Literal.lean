import AgentWorkflow.Number.Binary64

/-!
# Numbers in text

What counts as a number when a text stands where a number is wanted: decimal digits of any script,
single underscores between digits, blanks around. Floating point also takes a point, an exponent
and the names of infinity and the undefined number.
-/

namespace AgentWorkflow

namespace Numeral

/-- The text without its underscores, if each stands between two digits. -/
def dropUnderscores? (afterDigit : Bool) : Text → Option Text
  | [] => some []
  | c :: rest =>
    if c = '_' then
      match rest with
      | d :: _ => if afterDigit && d.isDigit then dropUnderscores? false rest else none
      | [] => none
    else (c :: ·) <$> dropUnderscores? c.isDigit rest

/-- The number that decimal digits spell. -/
def ofDigits (digits : Text) : Nat := digits.foldl (fun n c => 10 * n + c.digitValue) 0

/-- A sign, if there is one, and the rest: whether it is a minus comes first. -/
def takeSign : Text → Bool × Text
  | c :: rest => if c = '-' then (true, rest) else if c = '+' then (false, rest) else (false, c :: rest)
  | [] => (false, [])

/-- The exponent that ends a number: nothing, or a letter E, a sign and digits. -/
def exponent? : Text → Option Int
  | [] => some 0
  | c :: rest =>
    if c.asciiLower = 'e' then
      let (negative, digits) := takeSign rest
      if digits.isEmpty || !digits.all CodePoint.isDigit then none
      else some (if negative then -(ofDigits digits : Int) else ofDigits digits)
    else none

/-- An unsigned decimal with an optional point and exponent: its digits as one number and the
power of ten that scales it. -/
def decimal? (t : Text) : Option (Nat × Int) :=
  let whole := t.takeWhile CodePoint.isDigit
  let (fraction, rest) : Text × Text :=
    match t.dropWhile CodePoint.isDigit with
    | c :: rest =>
      if c = '.' then (rest.takeWhile CodePoint.isDigit, rest.dropWhile CodePoint.isDigit)
      else ([], c :: rest)
    | [] => ([], [])
  if whole.isEmpty && fraction.isEmpty then none
  else (exponent? rest).map fun e => (ofDigits (whole ++ fraction), e - fraction.length)

/-- The most digits an integer may have in text. -/
def digitLimit : Nat := 4300

/-- Why a text is no integer. -/
inductive IntegerFault
  | invalid
  | tooLong (digits : Nat)
deriving DecidableEq

/-- The integer that a text spells. Too many digits are refused before anything behind them. -/
def integer? (t : Text) : Except IntegerFault Int :=
  let (negative, body) := takeSign t.plainNumber
  let span := body.takeWhile fun (c : CodePoint) => c.isDigit || c = '_'
  match dropUnderscores? false span with
  | none => .error .invalid
  | some digits =>
    if digits.isEmpty then .error .invalid
    else if digitLimit < digits.length then .error (.tooLong digits.length)
    else if body.length ≠ span.length then .error .invalid
    else .ok (if negative then -(ofDigits digits : Int) else ofDigits digits)

/-- What is said of an integer with too many digits. -/
def tooLongMessage (digits : Nat) : Text :=
  ("Exceeds the limit (" : Text) ++ Text.ofNat digitLimit
    ++ " digits) for integer string conversion: value has " ++ Text.ofNat digits
    ++ " digits; use sys.set_int_max_str_digits() to increase the limit"

end Numeral

/-- The floating-point number that a text spells. -/
def Binary64.ofText? (t : Text) : Option Binary64 := do
  let (negative, body) := Numeral.takeSign (← Numeral.dropUnderscores? false t.plainNumber)
  let name : Text := body.map CodePoint.asciiLower
  if name = ("inf" : Text) || name = ("infinity" : Text) then return .infinite negative
  if name = ("nan" : Text) then return .nan
  let (digits, exponent) ← Numeral.decimal? body
  return .ofDecimal negative digits exponent

example : Binary64.ofText? " 1_0.5e-1 " = some (.ofDecimal false 105 (-2)) := by decide +kernel
example : Binary64.ofText? "1__0" = none := by decide +kernel
example : (Numeral.integer? "-0_7").toOption = some (-7) := by decide +kernel

end AgentWorkflow
