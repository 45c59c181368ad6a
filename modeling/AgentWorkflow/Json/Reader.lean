import AgentWorkflow.Json.Value
import AgentWorkflow.Number.Literal

/-!
# Reading JSON

A reader of JSON text. Beside the standard grammar it takes `NaN`, `Infinity` and `-Infinity`;
of a name given twice the last value counts; a surrogate pair spelled by two escapes is one
character, and a surrogate without its partner stays as it is.

A fault says what was expected and where. The place is kept as the number of points still unread,
which the reader knows without counting. Arrays and objects may only be nested to a certain depth.
-/

namespace AgentWorkflow

namespace Json

/-- What a reader found wrong. -/
inductive Problem
  | value
  | name
  | colon
  | comma
  | control
  | escape
  | unicodeEscape
  | unterminated
  | extra
  | byteOrderMark
deriving DecidableEq

def Problem.message : Problem → Text
  | .value => "Expecting value"
  | .name => "Expecting property name enclosed in double quotes"
  | .colon => "Expecting ':' delimiter"
  | .comma => "Expecting ',' delimiter"
  | .control => "Invalid control character at"
  | .escape => "Invalid \\escape"
  | .unicodeEscape => "Invalid \\uXXXX escape"
  | .unterminated => "Unterminated string starting at"
  | .extra => "Extra data"
  | .byteOrderMark => "Unexpected UTF-8 BOM (decode using utf-8-sig)"

/-- What exceeds a limit of the reader: the digits of an integer, or the depth of an array or of an
object. -/
inductive Excess
  | digits (count : Nat)
  | arrayDepth
  | objectDepth
deriving DecidableEq

def Excess.message : Excess → Text
  | .digits count => Numeral.tooLongMessage count
  | .arrayDepth =>
    "maximum recursion depth exceeded while decoding a JSON array from a unicode string"
  | .objectDepth =>
    "maximum recursion depth exceeded while decoding a JSON object from a unicode string"

/-- A fault of reading: a problem with `left` points unread, or an excess. -/
inductive Fault
  | problem (what : Problem) (left : Nat)
  | excess (e : Excess)
deriving DecidableEq

/-- True of the blanks that JSON allows between tokens. -/
def isSpace (c : CodePoint) : Bool := c = ' ' || c = '\t' || c = '\n' || c = '\r'

/-- The text from its first token on. -/
def skipSpace (t : Text) : Text := t.dropWhile isSpace

/-- The point that a one-letter escape stands for. -/
def simpleEscape? (c : CodePoint) : Option CodePoint :=
  if c = '"' || c = '\\' || c = '/' then some c
  else if c = 'b' then some (CodePoint.ofNat 8)
  else if c = 'f' then some (CodePoint.ofNat 12)
  else if c = 'n' then some '\n'
  else if c = 'r' then some '\r'
  else if c = 't' then some '\t'
  else none

/-- The number that four hexadecimal digits spell, and the rest. At least one point has to follow
them. -/
def fourHex? : Text → Option (Nat × Text)
  | a :: b :: c :: d :: e :: rest => do
    let a ← a.hexValue?
    let b ← b.hexValue?
    let c ← c.hexValue?
    let d ← d.hexValue?
    return (((a * 16 + b) * 16 + c) * 16 + d, e :: rest)
  | _ => none

/-- Puts a point in front of a text and joins it with a low surrogate there if it is a high one.
Both have to come from escapes, which `joinable` tells of the second. -/
def joinPair (first : Nat) (joinable : Bool) : Text → Text
  | [] => [CodePoint.ofNat first]
  | c :: rest =>
    if joinable && 0xD800 ≤ first && first ≤ 0xDBFF && c.isLowSurrogate then
      CodePoint.ofNat (0x10000 + (first - 0xD800) * 0x400 + (c.val - 0xDC00)) :: rest
    else CodePoint.ofNat first :: c :: rest

/-- True of a text that starts like a Unicode escape. -/
def startsUnicodeEscape : Text → Bool
  | c :: d :: _ => c = '\\' && d = 'u'
  | _ => false

/-- Reads the body of a string behind its opening quote: its points and what follows the closing
quote. `size` is the number of points from the opening quote on. -/
def string (size : Nat) : Nat → Text → Except Fault (Text × Text)
  | 0, _ => .error (.problem .unterminated size)
  | _ + 1, [] => .error (.problem .unterminated size)
  | fuel + 1, c :: rest =>
    if c = '"' then .ok ([], rest)
    else if c = '\\' then
      match rest with
      | [] => .error (.problem .unterminated size)
      | e :: rest' =>
        if e = 'u' then
          match fourHex? rest' with
          | none => .error (.problem .unicodeEscape rest.length)
          | some (n, rest'') => do
            let (body, left) ← string size fuel rest''
            return (joinPair n (startsUnicodeEscape rest'') body, left)
        else match simpleEscape? e with
          | none => .error (.problem .escape (rest.length + 1))
          | some p => do
            let (body, left) ← string size fuel rest'
            return (p :: body, left)
    else if c.val < 0x20 then .error (.problem .control (rest.length + 1))
    else do
      let (body, left) ← string size fuel rest
      return (c :: body, left)

/-- The digits of a fraction and the rest, if a point and a digit come first. -/
def takeFraction (t : Text) : Text × Text :=
  match t with
  | p :: d :: rest =>
    if p = '.' && d.isDigit then
      (d :: rest.takeWhile CodePoint.isDigit, rest.dropWhile CodePoint.isDigit)
    else ([], t)
  | _ => ([], t)

/-- An exponent and the rest, if a letter E and digits, perhaps signed, come first. -/
def takeExponent (t : Text) : Option (Int × Text) :=
  match t with
  | e :: rest =>
    let (negative, digits) := Numeral.takeSign rest
    let span := digits.takeWhile CodePoint.isDigit
    if e.asciiLower = 'e' && !span.isEmpty then
      let n : Int := Numeral.ofDigits span
      some (if negative then -n else n, digits.dropWhile CodePoint.isDigit)
    else none
  | [] => none

/-- Reads a number at the front of a text. A whole part of more than one digit has no leading
zero; a point or an exponent makes the number a floating-point one. -/
def number (t : Text) : Except Fault (Json × Text) :=
  let (negative, body) : Bool × Text :=
    match t with
    | c :: rest => if c = '-' then (true, rest) else (false, t)
    | [] => (false, t)
  let digits : Text := body.takeWhile CodePoint.isDigit
  let whole : Text := if digits.head? = some ('0' : CodePoint) then digits.take 1 else digits
  if whole.isEmpty then .error (.problem .value t.length)
  else
    let (fraction, rest) := takeFraction (body.drop whole.length)
    let value := Numeral.ofDigits (whole ++ fraction)
    match takeExponent rest with
    | some (e, rest) => .ok (.real (.ofDecimal negative value (e - fraction.length)), rest)
    | none =>
      if !fraction.isEmpty then .ok (.real (.ofDecimal negative value (-fraction.length)), rest)
      else if Numeral.digitLimit < whole.length then .error (.excess (.digits whole.length))
      else .ok (.int (if negative then -(value : Int) else value), rest)

def words : List (Text × Json) :=
  [("null", .null), ("true", .bool true), ("false", .bool false), ("NaN", .real .nan),
   ("Infinity", .real (.infinite false)), ("-Infinity", .real (.infinite true))]

/-- Reads a value that is one word or a number. -/
def scalar (t : Text) : Except Fault (Json × Text) :=
  match words.findSome? fun (word, v) => (Text.after? word t).map (v, ·) with
  | some result => .ok result
  | none => number t

mutual

/-- Reads a value at the front of a text. At most `depth` arrays and objects may stand one inside
another. -/
def value : Nat → Nat → Text → Except Fault (Json × Text)
  | 0, _, t => .error (.problem .value t.length)
  | fuel + 1, depth, t =>
    match t with
    | [] => .error (.problem .value 0)
    | c :: rest =>
      if c = '"' then do
        let (s, left) ← string t.length rest.length.succ rest
        return (.text s, left)
      else if c = '[' then
        if depth = 0 then .error (.excess .arrayDepth)
        else match skipSpace rest with
          | d :: left =>
            if d = ']' then .ok (.array [], left)
            else do
              let (vs, left) ← items fuel (depth - 1) (d :: left)
              return (.array vs, left)
          | [] => .error (.problem .value 0)
      else if c = '\x7b' then
        if depth = 0 then .error (.excess .objectDepth)
        else match skipSpace rest with
          | d :: left =>
            if d = '\x7d' then .ok (.object [], left)
            else do
              let (fs, left) ← fields fuel (depth - 1) (d :: left)
              return (.object (Table.ofList fs), left)
          | [] => .error (.problem .name 0)
      else scalar t

/-- Reads the items of an array up to and with its closing bracket. -/
def items : Nat → Nat → Text → Except Fault (List Json × Text)
  | 0, _, t => .error (.problem .value t.length)
  | fuel + 1, depth, t => do
    let (v, rest) ← value fuel depth t
    match skipSpace rest with
    | c :: left =>
      if c = ']' then return ([v], left)
      else if c = ',' then do
        let (vs, left) ← items fuel depth (skipSpace left)
        return (v :: vs, left)
      else .error (.problem .comma (left.length + 1))
    | [] => .error (.problem .comma 0)

/-- Reads the fields of an object up to and with its closing brace. -/
def fields : Nat → Nat → Text → Except Fault (List (Text × Json) × Text)
  | 0, _, t => .error (.problem .name t.length)
  | fuel + 1, depth, t =>
    match t with
    | [] => .error (.problem .name 0)
    | c :: rest =>
      if c = '"' then do
        let (name, rest) ← string t.length rest.length.succ rest
        match skipSpace rest with
        | d :: rest =>
          if d = ':' then do
            let (v, rest) ← value fuel depth (skipSpace rest)
            match skipSpace rest with
            | e :: left =>
              if e = '\x7d' then return ([(name, v)], left)
              else if e = ',' then do
                let (fs, left) ← fields fuel depth (skipSpace left)
                return ((name, v) :: fs, left)
              else .error (.problem .comma (left.length + 1))
            | [] => .error (.problem .comma 0)
          else .error (.problem .colon (rest.length + 1))
        | [] => .error (.problem .colon 0)
      else .error (.problem .name (rest.length + 1))

end

/-- Reads a text that holds one value, nested at most `depth` deep, and nothing else but blanks.
Every step of the reader uses up a point of the text, so the text's length bounds the steps. -/
def read (depth : Nat) (t : Text) : Except Fault Json :=
  if t.head? = some (CodePoint.ofNat 0xFEFF) then .error (.problem .byteOrderMark t.length)
  else do
    let (v, rest) ← value (2 * t.length + 2) depth (skipSpace t)
    match skipSpace rest with
    | [] => return v
    | left => .error (.problem .extra left.length)

/-- The fault in words, with its line and column in the text that was read. -/
def Fault.message (t : Text) : Fault → Text
  | .excess e => e.message
  | .problem what left =>
    let position := t.length - left
    let before := t.take position
    let line := before.count ('\n' : CodePoint) + 1
    let column := (before.reverse.takeWhile (· ≠ ('\n' : CodePoint))).length + 1
    what.message ++ ": line " ++ Text.ofNat line ++ " column " ++ Text.ofNat column
      ++ " (char " ++ Text.ofNat position ++ ")"

end Json

end AgentWorkflow
