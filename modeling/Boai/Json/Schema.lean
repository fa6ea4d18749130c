import Boai.Lib.ExactDouble
import Boai.Json.Value

/-!
# JSON Schema

The meaning of the keywords that tool definitions use: `type`, `enum`, `properties`
and `required`.  Keywords are independent of each other, and one that is not among
them restricts nothing.
-/

namespace Boai.Json.Schema

/-- A double without fractional part. -/
def isIntegral (bits : UInt64) : Bool :=
  match ExactDouble.value (.ofBits bits) with
  | none => false
  | some raw => raw.den = 1

/-- `type`. -/
def hasType (type : String) : JsonValue → Bool
  | .null => type = "null"
  | .bool _ => type = "boolean"
  | .int64 _ | .uint64 _ => type = "integer" ∨ type = "number"
  | .double bits => type = "number" ∨ type = "integer" ∧ isIntegral bits
  | .string _ => type = "string"
  | .array _ => type = "array"
  | .object _ => type = "object"

/-- `required`: all names are members, if the value is an object. -/
def hasMembers (names : List JsonValue) : JsonValue → Bool
  | .object members => names.all fun
      | .string name => (ifContains members name).isSome
      | _ => true
  | _ => true

mutual

/-- The schema admits the value. -/
def admits : (schema value : JsonValue) → Bool
  | .object keywords, value => admitsAll keywords value
  | .bool anything, _ => anything
  | _, _ => true

def admitsAll : (keywords : List (String × JsonValue)) → (value : JsonValue) → Bool
  | [], _ => true
  | (keyword, argument) :: keywords, value =>
      admitsKeyword keyword argument value && admitsAll keywords value

def admitsKeyword (keyword : String) : (argument value : JsonValue) → Bool
  | .string type, value => keyword ≠ "type" || hasType type value
  | .array items, value =>
      (keyword ≠ "enum" || items.contains value) &&
        (keyword ≠ "required" || hasMembers items value)
  | .object properties, value => keyword ≠ "properties" || admitsProperties properties value
  | _, _ => true

/-- `properties`: each named member that is there. -/
def admitsProperties : (properties : List (String × JsonValue)) → (value : JsonValue) → Bool
  | [], _ => true
  | (name, schema) :: properties, value =>
      (match value with
        | .object members =>
            match ifContains members name with
            | some field => admits schema field
            | none => true
        | _ => true) && admitsProperties properties value

end

theorem admitsProperties_object {properties members : Members} :
    admitsProperties properties (.object members) = true ↔
      ∀ property ∈ properties, ∀ field, ifContains members property.1 = some field →
        admits property.2 field = true := by
  induction properties with
  | nil => simp [admitsProperties]
  | cons property properties ih =>
      cases property with
      | mk name schema =>
          simp only [admitsProperties, Bool.and_eq_true, ih, List.forall_mem_cons]
          apply and_congr_left'
          cases ifContains members name with
          | none => simp
          | some field => simp

end Boai.Json.Schema
