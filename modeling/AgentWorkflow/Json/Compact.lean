import AgentWorkflow.Json.Value

/-!
# Writing JSON

The standard form of a value, without blanks between tokens. Text outside ASCII stands as it is.
The standard has no infinite or undefined numbers, so a value that holds one has no such form
until null stands in its place.
-/

namespace AgentWorkflow

/-- A point inside a string: quote, backslash and control characters are escaped. -/
def CodePoint.jsonWritten (c : CodePoint) : Text :=
  if c = '"' then "\\\""
  else if c = '\\' then "\\\\"
  else if c = '\n' then "\\n"
  else if c = '\r' then "\\r"
  else if c = '\t' then "\\t"
  else if c.val = 0x8 then "\\b"
  else if c.val = 0xC then "\\f"
  else if c.val < 0x20 then ("\\u" : Text) ++ Text.hex 4 c.val
  else [c]

namespace Json

def writtenText (t : Text) : Text := ("\"" : Text) ++ t.flatMap CodePoint.jsonWritten ++ "\""

mutual

/-- The standard form of a value. -/
def compact : Json → Text
  | .null => "null"
  | .bool true => "true"
  | .bool false => "false"
  | .int n => Text.ofInt n
  | .real x => x.text
  | .text t => writtenText t
  | .array items => ("[" : Text) ++ Text.join "," (compactItems items) ++ "]"
  | .object fields => ("\x7b" : Text) ++ Text.join "," (compactFields fields) ++ "\x7d"

def compactItems : List Json → List Text
  | [] => []
  | item :: items => item.compact :: compactItems items

def compactFields : List (Text × Json) → List Text
  | [] => []
  | (name, value) :: fields => (writtenText name ++ ":" ++ value.compact) :: compactFields fields

end

mutual

/-- True of a value whose numbers are all finite. -/
def isFinite : Json → Bool
  | .real x => x.isFinite
  | .array items => areFinite items
  | .object fields => fieldsFinite fields
  | _ => true

def areFinite : List Json → Bool
  | [] => true
  | item :: items => item.isFinite && areFinite items

/-- True of fields whose numbers are all finite. -/
def fieldsFinite : List (Text × Json) → Bool
  | [] => true
  | (_, value) :: fields => value.isFinite && fieldsFinite fields

end

mutual

/-- The value with null in the place of every number that is not finite. -/
def withoutNonFinite : Json → Json
  | .real x => if x.isFinite then .real x else .null
  | .array items => .array (itemsWithoutNonFinite items)
  | .object fields => .object (fieldsWithoutNonFinite fields)
  | value => value

/-- Items with null in the place of every number that is not finite. -/
def itemsWithoutNonFinite : List Json → List Json
  | [] => []
  | item :: items => item.withoutNonFinite :: itemsWithoutNonFinite items

/-- Fields with null in the place of every number that is not finite. -/
def fieldsWithoutNonFinite : List (Text × Json) → List (Text × Json)
  | [] => []
  | (name, value) :: fields => (name, value.withoutNonFinite) :: fieldsWithoutNonFinite fields

end

mutual

/-- The value without the fields, at any depth, whose names `hidden` holds of. -/
def withoutFields (hidden : Text → Bool) : Json → Json
  | .array items => .array (itemsWithoutFields hidden items)
  | .object fields => .object (fieldsWithoutFields hidden fields)
  | value => value

/-- Items without the fields in them whose names `hidden` holds of. -/
def itemsWithoutFields (hidden : Text → Bool) : List Json → List Json
  | [] => []
  | item :: items => item.withoutFields hidden :: itemsWithoutFields hidden items

/-- Fields without those, at any depth, whose names `hidden` holds of. -/
def fieldsWithoutFields (hidden : Text → Bool) : List (Text × Json) → List (Text × Json)
  | [] => []
  | (name, value) :: fields =>
    if hidden name then fieldsWithoutFields hidden fields
    else (name, value.withoutFields hidden) :: fieldsWithoutFields hidden fields

end

example : (Json.array [.text "a\"\n", .null, .int (-2)]).compact = ("[\"a\\\"\\n\",null,-2]" : Text) := by
  decide +kernel
example : (Json.object [("a", .real .nan)]).isFinite = false := by decide +kernel

end Json

end AgentWorkflow
