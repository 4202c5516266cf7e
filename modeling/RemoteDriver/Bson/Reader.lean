import RemoteDriver.Bson.Basic
import RemoteDriver.Json.Fault
import RemoteDriver.Text.Base64
import RemoteDriver.Text.Blank
import RemoteDriver.Text.Utf8
import RemoteDriver.Time.Rfc3339

/-!
# Reading BSON values from extended JSON

A JSON object that has one of the reserved names stands for a value of the type that the name
marks, and may then have no other members than that type asks for; any other object is a
document.  The reserved names are tried in a fixed order, so that the type of an object does not
hang on the order of its members.
-/

namespace RemoteDriver.Bson

open Json (Fault Found asString field checkMembers recordMembers wrongType)

/-! ## The marks of typed values -/

/-- The types that a reserved name marks. -/
inductive Mark
  /-- An object identifier. -/
  | objectId
  /-- A symbol. -/
  | symbol
  /-- A regular expression. -/
  | regularExpression
  /-- A whole number of 32 bits. -/
  | int32
  /-- A whole number of 64 bits. -/
  | int64
  /-- A double. -/
  | double
  /-- A decimal number. -/
  | decimal128
  /-- Bytes. -/
  | binary
  /-- Bytes of a universal identifier. -/
  | uuid
  /-- JavaScript code, with or without a scope. -/
  | code
  /-- A time stamp. -/
  | timestamp
  /-- An instant. -/
  | dateTime
  /-- What is below all values. -/
  | minKey
  /-- What is above all values. -/
  | maxKey
  /-- A reference to a document. -/
  | dbPointer
  /-- The value that is not defined. -/
  | undefined
deriving DecidableEq, Repr

namespace Mark

/-- The reserved name of a type. -/
def name : Mark → String
  | objectId => "$oid"
  | symbol => "$symbol"
  | regularExpression => "$regularExpression"
  | int32 => "$numberInt"
  | int64 => "$numberLong"
  | double => "$numberDouble"
  | decimal128 => "$numberDecimal"
  | binary => "$binary"
  | uuid => "$uuid"
  | code => "$code"
  | timestamp => "$timestamp"
  | dateTime => "$date"
  | minKey => "$minKey"
  | maxKey => "$maxKey"
  | dbPointer => "$dbPointer"
  | undefined => "$undefined"

/-- All marks in the order in which they are looked for. -/
def all : List Mark :=
  [objectId, symbol, regularExpression, int32, int64, double, decimal128, binary, uuid, code,
    timestamp, dateTime, minKey, maxKey, dbPointer, undefined]

/-- The mark of an object with these members, if it has one. -/
def of? (members : List (String × Json)) : Option Mark :=
  all.find? fun m => (members.lookup m.name).isSome

end Mark

/-! ## Texts that stand for values -/

/-- The identifier of a text of twenty-four hexadecimal digits. -/
def ObjectId.ofText (text : String) : Except Fault ObjectId :=
  match Text.Hex.decode (Text.Utf8.encode text.toList) with
  | .error (.notADigit b index) => .error (.identifierDigit (Char.ofNat b.toNat) index text)
  | .error .oddLength => .error (.identifierLength text)
  | .ok bytes =>
    match ObjectId.ofBytes? bytes with
    | some id => .ok id
    | none => .error (.identifierLength text)

/-- The value that a text stands for, or the fault that it stands for none. -/
def ofText {α : Type} (expected : String) (read? : List Char → Option α) (text : String) :
    Except Fault α :=
  match read? text.toList with
  | some a => .ok a
  | none => .error (.invalidValue (.string text) expected)

/-- The whole number of a text, of 32 bits. -/
def int32OfText : String → Except Fault Int32 :=
  ofText "i32 as a string" fun s =>
    (Number.intWithin? Number.minInt32 Number.maxInt32 s).map Int32.ofInt

/-- The whole number of a text, of 64 bits. -/
def int64OfText : String → Except Fault Int64 :=
  ofText "i64 as a string" fun s =>
    (Number.intWithin? Number.minInt64 Number.maxInt64 s).map Int64.ofInt

/-- The double of a text. -/
def doubleOfText : String → Except Fault Double := ofText "bson double as string" Double.ofText?

/-- The decimal number of a text. -/
def decimalOfText : String → Except Fault Decimal128 :=
  ofText "bson decimal128 as string" Decimal128.ofText?

/-- The instant of an RFC 3339 text. -/
def instantOfText : String → Except Fault Int64 :=
  ofText "rfc3339 formatted utc datetime" fun s => (Time.Rfc3339.read? s).map Int64.ofInt

/-- The bytes of hexadecimal text. -/
def hexBytes? (s : List Char) : Option (List UInt8) :=
  match Text.Hex.decode (Text.Utf8.encode s) with
  | .ok bytes => some bytes
  | .error _ => none

/-- The digits of a universal identifier that is written in groups of 8, 4, 4, 4 and 12 digits
with hyphens between them. -/
def hyphenated? (s : List Char) : Option (List Char) :=
  match Text.pieces '-' s with
  | [a, b, c, d, e] =>
    if a.length = 8 ∧ b.length = 4 ∧ c.length = 4 ∧ d.length = 4 ∧ e.length = 12 then
      some (a ++ b ++ c ++ d ++ e)
    else none
  | _ => none

/-- The bytes of a universal identifier: thirty-two digits, or groups of digits with hyphens,
which may stand in braces or after `urn:uuid:` in any case. -/
def uuidBytes? (s : List Char) : Option (List UInt8) :=
  if (Text.Utf8.encode s).length ≠ s.length then none
  else if s.length = 32 then hexBytes? s
  else if s.length = 36 then (hyphenated? s).bind hexBytes?
  else if s.length = 38 ∧ s.head? = some (Char.ofNat 0x7B)
      ∧ s.getLast? = some (Char.ofNat 0x7D) then
    (hyphenated? (s.drop 1).dropLast).bind hexBytes?
  else if s.length = 45 ∧ String.ofList ((s.take 9).map Char.toLower) = "urn:uuid:" then
    (hyphenated? (s.drop 9)).bind hexBytes?
  else none

/-! ## Typed values -/

/-- A check that a value is a text. -/
def isText (v : Json) : Except Fault Unit := do
  let _ ← asString v

/-- The text that is the only member of a typed value. -/
def onlyText (m : Mark) (members : List (String × Json)) : Except Fault String := do
  checkMembers [m.name] (fun _ v => isText v) members
  field m.name asString members

/-- The record that is the only member of a typed value. -/
def onlyRecord {α : Type} (m : Mark) (read : Json → Except Fault α)
    (members : List (String × Json)) : Except Fault α := do
  checkMembers [m.name] (fun _ v => do let _ ← read v) members
  field m.name read members

/-- Pattern and options of a regular expression, the options sorted. -/
def readPattern (v : Json) : Except Fault (String × String) := do
  let members ← recordMembers "RegexBody" ["pattern", "options"] (fun _ v => isText v) v
  let pattern ← field "pattern" asString members
  let options ← field "options" asString members
  return (pattern, options)

/-- A text with its characters in increasing order. -/
def sortedText (s : String) : String :=
  String.ofList (s.toList.mergeSort fun a b => decide (a.toNat ≤ b.toNat))

/-- The two texts of bytes: their base64 form and the hexadecimal form of their kind. -/
def readBytes (v : Json) : Except Fault (String × String) := do
  let members ← recordMembers "BinaryBody" ["base64", "subType"] (fun _ v => isText v) v
  let base64 ← field "base64" asString members
  let subtype ← field "subType" asString members
  return (base64, subtype)

/-- The bytes and their kind that two texts stand for. -/
def binaryOfTexts (base64 subtype : String) : Except Fault Value := do
  let bytes ← ofText "base64 encoded bytes" Text.Base64.decode base64
  match ← ofText "hexadecimal number as a string" hexBytes? subtype with
  | [b] => return .binary b bytes
  | _ => throw (.invalidValue .bytes "one byte subtype")

/-- The two counters of a time stamp. -/
def readTimestamp (v : Json) : Except Fault (Nat × Nat) := do
  let word := Json.asNatural "u32" Number.maxUInt32
  let members ← recordMembers "TimestampBody" ["t", "i"] (fun _ v => do let _ ← word v) v
  let time ← field "t" word members
  let increment ← field "i" word members
  return (time, increment)

/-- The text of an identifier as a record of its own. -/
def readIdentifierText (v : Json) : Except Fault String := do
  let members ← recordMembers "ObjectId" [Mark.objectId.name] (fun _ v => isText v) v
  field Mark.objectId.name asString members

/-- The collection and the identifier's text of a reference. -/
def readReference (v : Json) : Except Fault (String × String) := do
  let check (name : String) (v : Json) : Except Fault Unit :=
    if name = "$ref" then isText v else do let _ ← readIdentifierText v
  let members ← recordMembers "DbPointerBody" ["$ref", "$id"] check v
  let ref ← field "$ref" asString members
  let id ← field "$id" readIdentifierText members
  return (ref, id)

/-- The ways to write an instant. -/
inductive InstantForm
  /-- A number of milliseconds as text. -/
  | milliseconds (text : String)
  /-- An RFC 3339 text. -/
  | rfc3339 (text : String)
  /-- A number of milliseconds. -/
  | number (n : Int)
deriving DecidableEq, Repr

/-- How an instant is written. -/
def readInstantForm (v : Json) : Except Fault InstantForm :=
  let unknown : Except Fault InstantForm := .error (.noVariant "DateTimeBody")
  match v with
  | .string s => .ok (.rfc3339 s)
  | .number (.whole n) => if Number.fitsInt64 n then .ok (.number n) else unknown
  | .object [(name, .string s)] =>
    if name = Mark.int64.name then .ok (.milliseconds s) else unknown
  | .array [.string s] => .ok (.milliseconds s)
  | _ => unknown

/-- The instant of a written form. -/
def InstantForm.instant : InstantForm → Except Fault Int64
  | .milliseconds text => int64OfText text
  | .rfc3339 text => instantOfText text
  | .number n => .ok (Int64.ofInt n)

/-- A check that the value of a key at the end of the order is one. -/
def isOne (m : Mark) (members : List (String × Json)) : Except Fault Unit := do
  let n ← onlyRecord m (Json.asNatural "u8" 255) members
  if n ≠ 1 then
    throw (.invalidValue (.integer n) ("value of " ++ m.name ++ " should always be 1"))

/-- The code of a value of JavaScript code; its scope has to be an object or `null`. -/
def readCode (members : List (String × Json)) : Except Fault String := do
  let check (name : String) (v : Json) : Except Fault Unit :=
    if name = Mark.code.name then isText v
    else match v with
      | .null => .ok ()
      | .object _ => .ok ()
      | v => .error (wrongType v "a map")
  checkMembers [Mark.code.name, "$scope"] check members
  field Mark.code.name asString members

/-- The value of an object with a mark; `scope` is what its scope reads as, if it has one. -/
def readMarked (members : List (String × Json)) (scope : Option (Except Fault Document)) :
    Mark → Except Fault Value
  | .objectId => do return .objectId (← ObjectId.ofText (← onlyText .objectId members))
  | .symbol => do return .symbol (← onlyText .symbol members)
  | .regularExpression => do
    let (pattern, options) ← onlyRecord .regularExpression readPattern members
    return .regularExpression pattern (sortedText options)
  | .int32 => do return .int32 (← int32OfText (← onlyText .int32 members))
  | .int64 => do return .int64 (← int64OfText (← onlyText .int64 members))
  | .double => do return .double (← doubleOfText (← onlyText .double members))
  | .decimal128 => do return .decimal128 (← decimalOfText (← onlyText .decimal128 members))
  | .binary => do
    let (base64, subtype) ← onlyRecord .binary readBytes members
    binaryOfTexts base64 subtype
  | .uuid => do
    let text ← onlyText .uuid members
    return .binary 4 (← ofText
      "$uuid value does not follow RFC 4122 format regarding length and hyphens" uuidBytes? text)
  | .code => do
    let code ← readCode members
    match scope with
    | some scope => return .javaScriptCodeWithScope code (← scope)
    | none => return .javaScriptCode code
  | .timestamp => do
    let (time, increment) ← onlyRecord .timestamp readTimestamp members
    return .timestamp (UInt32.ofNat time) (UInt32.ofNat increment)
  | .dateTime => do
    return .dateTime (← (← onlyRecord .dateTime readInstantForm members).instant)
  | .minKey => do
    isOne .minKey members
    return .minKey
  | .maxKey => do
    isOne .maxKey members
    return .maxKey
  | .dbPointer => do
    let (ref, id) ← onlyRecord .dbPointer readReference members
    return .dbPointer ref (← ObjectId.ofText id)
  | .undefined => do
    let b ← onlyRecord .undefined Json.asBoolean members
    if b then return .undefined
    else throw (.invalidValue (.boolean b) "$undefined should always be true")

/-! ## Values -/

/-- The value of a number: a whole number takes the narrowest of the two integer types, and is a
double if neither holds it. -/
def ofNumber : Json.Number → Value
  | .double d => .double d
  | .whole n =>
    if Number.fitsInt32 n then .int32 (Int32.ofInt n)
    else if Number.fitsInt64 n then .int64 (Int64.ofInt n)
    else .double (Double.ofInt n)

mutual

/-- The BSON value of a JSON value. -/
def read : Json → Except Fault Value
  | .null => .ok .null
  | .boolean b => .ok (.boolean b)
  | .number n => .ok (ofNumber n)
  | .string s => .ok (.string s)
  | .array items => (readItems items).map .array
  | .object members =>
    match Mark.of? members with
    | none => (readDocument members).map .document
    | some m => readMarked members (readScope members) m

/-- The values of an array. -/
def readItems : List Json → Except Fault (List Value)
  | [] => .ok []
  | v :: vs =>
    match read v with
    | .error e => .error e
    | .ok a =>
      match readItems vs with
      | .error e => .error e
      | .ok as => .ok (a :: as)

/-- The fields of a document. -/
def readDocument : List (String × Json) → Except Fault Document
  | [] => .ok []
  | (name, v) :: vs =>
    match read v with
    | .error e => .error e
    | .ok a =>
      match readDocument vs with
      | .error e => .error e
      | .ok as => .ok ((name, a) :: as)

/-- What the scope among these members reads as: its names are names of variables, even where
they are reserved. -/
def readScope : List (String × Json) → Option (Except Fault Document)
  | [] => none
  | (name, v) :: rest => if name = "$scope" then readVariables v else readScope rest

/-- The variables of a scope that is an object. -/
def readVariables : Json → Option (Except Fault Document)
  | .object members => some (readDocument members)
  | _ => none

end

end RemoteDriver.Bson
