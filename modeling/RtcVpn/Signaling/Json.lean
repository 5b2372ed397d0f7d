import Mathlib.Tactic.Common

/-!
# JSON values

Parsed JSON values and the ways the signalling code looks into them. Reading a
field as a string throws when the field holds something else.
-/

namespace RtcVpn

/-- A parsed JSON value; a number is kept as it was written. -/
inductive Json where
  | null
  | bool (value : Bool)
  | number (literal : String)
  | string (value : String)
  | array (elements : List Json)
  | object (fields : List (String × Json))

namespace Json

/-- `find`: the field of an object. Nothing is found in a value that is no object. -/
def find (key : String) : Json → Option Json
  | object fields => fields.lookup key
  | _ => none

/-- `get<std::string>()`, which throws on anything but a string. -/
def asString : Json → Option String
  | string value => some value
  | _ => none

/-- `value(key, "")` of an object: the empty string if the field is missing, and a throw if it is
no string. -/
def value (key : String) (json : Json) : Option String :=
  match json.find key with
  | some field => field.asString
  | none => some ""

/-- `json[key] == text` for a field that has been found. -/
def fieldEquals (key text : String) (json : Json) : Bool :=
  match json.find key with
  | some (string value) => value == text
  | _ => false

@[simp] theorem find_object (key : String) (fields : List (String × Json)) :
    (object fields).find key = fields.lookup key := rfl

end Json

end RtcVpn
