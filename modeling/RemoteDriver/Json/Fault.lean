import RemoteDriver.Json.Basic
import RemoteDriver.Number.Shortest
import RemoteDriver.Text.Quoted

/-!
# Faults of a JSON value

What can be wrong with a JSON value that is read as a record, and the readers of plain fields
that find it.  A record is read in the order of its members: the first member that is unknown or
has a wrong value is the fault, and only then a missing one.
-/

namespace RemoteDriver.Json

/-- What stands where something else was expected. -/
inductive Found
  /-- The value `null`. -/
  | null
  /-- A truth value. -/
  | boolean (b : Bool)
  /-- A whole number. -/
  | integer (n : Int)
  /-- Any other number. -/
  | float (d : Double)
  /-- A text. -/
  | string (s : String)
  /-- An array. -/
  | sequence
  /-- An object. -/
  | map
  /-- Bytes that a text stands for. -/
  | bytes
deriving DecidableEq, Repr

/-- What is wrong with a value. -/
inductive Fault
  /-- A record lacks this member. -/
  | missingField (name : String)
  /-- A record has a member that is none of those expected. -/
  | unknownField (name : String) (expected : List String)
  /-- A value has the wrong type. -/
  | invalidType (found : Found) (expected : String)
  /-- A value has the right type and is not one of those expected. -/
  | invalidValue (found : Found) (expected : String)
  /-- An array that stands for a record has the wrong length. -/
  | invalidLength (length : Nat) (expected : String)
  /-- A name is none of the alternatives. -/
  | unknownVariant (name : String) (expected : List String)
  /-- A value is none of the forms of this name. -/
  | noVariant (name : String)
  /-- A text that should be an identifier has a character that is no digit. -/
  | identifierDigit (found : Char) (index : Nat) (text : String)
  /-- A text that should be an identifier has not twelve bytes. -/
  | identifierLength (text : String)
deriving DecidableEq, Repr

namespace Found

/-- What stands there, from the value. -/
def ofJson : Json → Found
  | .null => .null
  | .boolean b => .boolean b
  | .number (.whole n) => .integer n
  | .number (.double d) => .float d
  | .string s => .string s
  | .array _ => .sequence
  | .object _ => .map

/-- The description of what stands there. -/
def text : Found → String
  | .null => "null"
  | .boolean b => "boolean `" ++ (if b then "true" else "false") ++ "`"
  | .integer n => "integer `" ++ toString n ++ "`"
  | .float d => "floating point `" ++ d.wireText ++ "`"
  | .string s => "string " ++ Text.quoted s
  | .sequence => "sequence"
  | .map => "map"
  | .bytes => "byte array"

end Found

namespace Fault

/-- A name between the marks that messages put around names. -/
def marked (name : String) : String := "`" ++ name ++ "`"

/-- The alternatives of a message. -/
def alternatives : List String → String
  | [a] => marked a
  | [a, b] => marked a ++ " or " ++ marked b
  | names => "one of " ++ String.intercalate ", " (names.map marked)

/-- The message of a fault. -/
def message : Fault → String
  | .missingField name => "missing field " ++ marked name
  | .unknownField name expected =>
    "unknown field " ++ marked name ++ ", expected " ++ alternatives expected
  | .invalidType found expected => "invalid type: " ++ found.text ++ ", expected " ++ expected
  | .invalidValue found expected => "invalid value: " ++ found.text ++ ", expected " ++ expected
  | .invalidLength length expected =>
    "invalid length " ++ toString length ++ ", expected " ++ expected
  | .unknownVariant name expected =>
    "unknown variant " ++ marked name ++ ", expected " ++ alternatives expected
  | .noVariant name => "data did not match any variant of untagged enum " ++ name
  | .identifierDigit found index text =>
    "invalid character '" ++ String.ofList [found] ++ "' was found at index " ++ toString index
      ++ " in the provided hex string: \"" ++ text ++ "\""
  | .identifierLength text =>
    "provided hex string representation must be exactly 12 bytes, instead got: \"" ++ text
      ++ "\", length " ++ toString text.utf8ByteSize

end Fault

/-! ## Reading plain values -/

/-- The fault of a value that has another type than `expected`. -/
def wrongType (v : Json) (expected : String) : Fault := .invalidType (.ofJson v) expected

/-- A text. -/
def asString : Json → Except Fault String
  | .string s => .ok s
  | v => .error (wrongType v "a string")

/-- A truth value. -/
def asBoolean : Json → Except Fault Bool
  | .boolean b => .ok b
  | v => .error (wrongType v "a boolean")

/-- A whole number from zero to `high`, of the type that messages call `type`. -/
def asNatural (type : String) (high : Nat) : Json → Except Fault Nat
  | .number (.whole n) =>
    if 0 ≤ n ∧ n ≤ high then .ok n.toNat else .error (.invalidValue (.integer n) type)
  | v => .error (wrongType v type)

/-! ## Reading records -/

/-- Checks the members of a record in their order: each has to be one of `known` and to pass
`check`. -/
def checkMembers (known : List String) (check : String → Json → Except Fault Unit) :
    List (String × Json) → Except Fault Unit
  | [] => .ok ()
  | (name, v) :: rest =>
    if name ∈ known then
      match check name v with
      | .ok _ => checkMembers known check rest
      | .error e => .error e
    else .error (.unknownField name known)

/-- Checks the members of a record in their order; those that are not known are left alone. -/
def checkKnown (known : List String) (check : String → Json → Except Fault Unit)
    (members : List (String × Json)) : Except Fault Unit :=
  checkMembers known check (members.filter fun m => known.contains m.1)

/-- The value of a required member. -/
def field {α : Type} (name : String) (read : Json → Except Fault α)
    (members : List (String × Json)) : Except Fault α :=
  match members.lookup name with
  | some v => read v
  | none => .error (.missingField name)

/-- A count of elements, as messages put it. -/
def elementCount (n : Nat) : String :=
  if n = 1 then "1 element" else toString n ++ " elements"

/-- The members of a record with required members of these names, which may also be written as
an array of their values in this order.  `check` is applied to each in turn. -/
def recordMembers (type : String) (names : List String)
    (check : String → Json → Except Fault Unit) : Json → Except Fault (List (String × Json))
  | .object members => do
    checkMembers names check members
    return members
  | .array items => do
    let members := names.zip items
    checkMembers names check members
    if items.length < names.length then
      throw (.invalidLength items.length
        ("struct " ++ type ++ " with " ++ elementCount names.length))
    if names.length < items.length then
      throw (.invalidLength items.length "fewer elements in array")
    return members
  | v => .error (wrongType v ("struct " ++ type))

end RemoteDriver.Json
