import RemoteDriver.Json.Basic
import RemoteDriver.Number.Decimal128

/-!
# BSON values

The values that documents are made of.  A document is a list of named values; its names are
distinct when it comes from a JSON object.
-/

namespace RemoteDriver

namespace Bson

/-- An object identifier. -/
structure ObjectId where
  /-- The bytes. -/
  bytes : List UInt8
  /-- There are twelve of them. -/
  length_bytes : bytes.length = 12
deriving DecidableEq, Repr

/-- A BSON value. -/
inductive Value
  /-- A double. -/
  | double (d : Double)
  /-- A text. -/
  | string (s : String)
  /-- Values in order. -/
  | array (items : List Value)
  /-- Named values in order. -/
  | document (fields : List (String × Value))
  /-- A truth value. -/
  | boolean (b : Bool)
  /-- The value that is none. -/
  | null
  /-- A regular expression with its options. -/
  | regularExpression (pattern options : String)
  /-- JavaScript code. -/
  | javaScriptCode (code : String)
  /-- JavaScript code with the variables it may use. -/
  | javaScriptCodeWithScope (code : String) (scope : List (String × Value))
  /-- A whole number of 32 bits. -/
  | int32 (n : Int32)
  /-- A whole number of 64 bits. -/
  | int64 (n : Int64)
  /-- A time in seconds with a counter. -/
  | timestamp (time increment : UInt32)
  /-- Bytes of a kind. -/
  | binary (subtype : UInt8) (bytes : List UInt8)
  /-- An object identifier. -/
  | objectId (id : ObjectId)
  /-- An instant in milliseconds since the beginning of 1970. -/
  | dateTime (ms : Int64)
  /-- A symbol. -/
  | symbol (s : String)
  /-- A decimal number. -/
  | decimal128 (d : Decimal128)
  /-- The value that is not defined. -/
  | undefined
  /-- What is above all values. -/
  | maxKey
  /-- What is below all values. -/
  | minKey
  /-- A reference to a document of a collection. -/
  | dbPointer (collection : String) (id : ObjectId)
deriving Repr, Inhabited

/-- Named values in order. -/
abbrev Document := List (String × Value)

namespace Value

/-- The name of a value's type, as messages spell it. -/
def typeName : Value → String
  | .double _ => "Double"
  | .string _ => "String"
  | .array _ => "Array"
  | .document _ => "EmbeddedDocument"
  | .boolean _ => "Boolean"
  | .null => "Null"
  | .regularExpression .. => "RegularExpression"
  | .javaScriptCode _ => "JavaScriptCode"
  | .javaScriptCodeWithScope .. => "JavaScriptCodeWithScope"
  | .int32 _ => "Int32"
  | .int64 _ => "Int64"
  | .timestamp .. => "Timestamp"
  | .binary .. => "Binary"
  | .objectId _ => "ObjectId"
  | .dateTime _ => "DateTime"
  | .symbol _ => "Symbol"
  | .decimal128 _ => "Decimal128"
  | .undefined => "Undefined"
  | .maxKey => "MaxKey"
  | .minKey => "MinKey"
  | .dbPointer .. => "DbPointer"

/-- Documents as one array value. -/
def documents (ds : List Document) : Value := .array (ds.map .document)

end Value

namespace ObjectId

/-- The identifier of twelve bytes. -/
def ofBytes? (bytes : List UInt8) : Option ObjectId :=
  if h : bytes.length = 12 then some ⟨bytes, h⟩ else none

end ObjectId

end Bson

end RemoteDriver
