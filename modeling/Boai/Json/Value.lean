import Boai.Lib.Dict

/-!
# JSON values and the text codec

`JsonValue` follows `boost::json::value`: three number kinds are kept apart
because the source asks for one of them (`is_int64`).  Their ranges play no role
in the source, so the integer kinds are unbounded and a double is known by its
bits.  An object value carries its members in order; objects that the program
builds itself are `JsonObject`s and have distinct keys.

Parsing and serialising text is Boost's work and stays a parameter.
-/

namespace Boai.Json

/-- `boost::json::value`. -/
inductive JsonValue where
  | null
  | bool (value : Bool)
  | int64 (value : Int)
  | uint64 (value : Nat)
  | double (bits : UInt64)
  | string (text : String)
  | array (items : List JsonValue)
  | object (members : List (String × JsonValue))
  deriving Inhabited, Repr

/-- Members of a JSON object, in order. -/
abbrev Members := List (String × JsonValue)

/-- `boost::json::object` built by the program. -/
abbrev JsonObject := Dict String JsonValue

namespace JsonValue

mutual

/-- Executable structural equality. -/
def same : JsonValue → JsonValue → Bool
  | .null, .null => true
  | .bool left, .bool right => left == right
  | .int64 left, .int64 right => left == right
  | .uint64 left, .uint64 right => left == right
  | .double left, .double right => left == right
  | .string left, .string right => left == right
  | .array left, .array right => sameItems left right
  | .object left, .object right => sameMembers left right
  | _, _ => false

def sameItems : List JsonValue → List JsonValue → Bool
  | [], [] => true
  | left :: lefts, right :: rights => same left right && sameItems lefts rights
  | _, _ => false

def sameMembers : List (String × JsonValue) → List (String × JsonValue) → Bool
  | [], [] => true
  | (leftKey, left) :: lefts, (rightKey, right) :: rights =>
      leftKey == rightKey && same left right && sameMembers lefts rights
  | _, _ => false

end

mutual

theorem same_eq_true : (left right : JsonValue) →
    (same left right = true ↔ left = right)
  | .null, right => by cases right <;> simp [same]
  | .bool _, right => by cases right <;> simp [same]
  | .int64 _, right => by cases right <;> simp [same]
  | .uint64 _, right => by cases right <;> simp [same]
  | .double _, right => by cases right <;> simp [same]
  | .string _, right => by cases right <;> simp [same]
  | .array items, right => by
      cases right <;> simp [same, sameItems_eq_true items]
  | .object members, right => by
      cases right <;> simp [same, sameMembers_eq_true members]

theorem sameItems_eq_true : (left right : List JsonValue) →
    (sameItems left right = true ↔ left = right)
  | [], right => by cases right <;> simp [sameItems]
  | item :: items, right => by
      cases right with
      | nil => simp [sameItems]
      | cons other others =>
          simp [sameItems, same_eq_true item, sameItems_eq_true items]

theorem sameMembers_eq_true : (left right : List (String × JsonValue)) →
    (sameMembers left right = true ↔ left = right)
  | [], right => by cases right <;> simp [sameMembers]
  | (key, value) :: members, right => by
      cases right with
      | nil => simp [sameMembers]
      | cons other others =>
          rcases other with ⟨otherKey, otherValue⟩
          simp [sameMembers, same_eq_true value, sameMembers_eq_true members]

end

instance : DecidableEq JsonValue := fun left right =>
  decidable_of_iff (same left right = true) (same_eq_true left right)

/-- `value.is_string()`. -/
def isString : JsonValue → Bool
  | .string _ => true
  | _ => false

end JsonValue

/-- The value of an object built by the program. -/
def toValue (object : JsonObject) : JsonValue := .object object.entries

/-- `object.if_contains(key)`. -/
def ifContains (members : Members) (key : String) : Option JsonValue :=
  members.lookup key

@[simp] theorem ifContains_entries (object : JsonObject) (key : String) :
    ifContains object.entries key = object.get? key := rfl

/-- `boost::json::parse` (with an error code) and `boost::json::serialize`. -/
structure JsonLib where
  parse : String → Option JsonValue
  serialize : JsonValue → String

namespace JsonLib

/-- What the program may rely on in the codec: a parsed value is read back from
its own serialisation, `null` is written `null`, and the grammar of JSON text
holds in so far as the empty text and texts with a raw NUL are not JSON and a
string literal is longer than the string it denotes. -/
structure Lawful (json : JsonLib) : Prop where
  reparse : ∀ text value, json.parse text = some value →
    json.parse (json.serialize value) = some value
  serialize_null : json.serialize .null = "null"
  parse_empty : json.parse "" = none
  parse_nul : ∀ text value, json.parse text = some value → '\x00' ∉ text.toList
  literal_longer : ∀ text string, json.parse text = some (.string string) →
    string.length < text.length

/-- The codec restricted to a list of texts and the values they denote. -/
def ofTable (table : List (String × JsonValue)) : JsonLib where
  parse text := table.lookup text
  serialize value :=
    match table.find? fun entry => entry.2 = value with
    | none => ""
    | some entry => entry.1

end JsonLib

end Boai.Json
