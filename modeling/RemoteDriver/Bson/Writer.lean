import RemoteDriver.Bson.Reader

/-!
# Writing BSON values as extended JSON

Two forms.  The *relaxed* form writes numbers plainly and instants as text where that loses
nothing; it is what requests carry.  The *canonical* form marks the type of every number and
instant; it is what shows a value exactly.

The relaxed form writes the scope of JavaScript code in a way of its own: integers and finite
doubles plainly and other doubles as null, instants as numbers, and bytes of the general kind as
arrays.
-/

namespace RemoteDriver.Bson

/-- An object with one member. -/
def single (name : String) (v : Json) : Json := .object [(name, v)]

/-- An object with a mark. -/
def marked (m : Mark) (v : Json) : Json := single m.name v

/-- The text of an identifier. -/
def ObjectId.text (id : ObjectId) : String := String.ofList (Text.Hex.encode id.bytes)

/-- An identifier. -/
def writeIdentifier (id : ObjectId) : Json := marked .objectId (.string id.text)

/-- A whole number as text. -/
def intText (n : Int) : Json := .string (toString n)

/-- A double that is no finite number, as text. -/
def nonFiniteText (d : Double) : String :=
  if d.isNaN then (if d.negative then "-NaN" else "NaN")
  else if d.negative then "-Infinity" else "Infinity"

/-- A double as a number where it is one. -/
def writeDouble (d : Double) : Json :=
  if d.isFinite then .number (.double d) else marked .double (.string (nonFiniteText d))

/-- An instant as its number of milliseconds. -/
def writeMilliseconds (ms : Int64) : Json := marked .dateTime (marked .int64 (intText ms.toInt))

/-- An instant as text where it has one. -/
def writeInstant (ms : Int64) : Json :=
  if Time.Rfc3339.hasText ms.toInt then
    marked .dateTime (.string (String.ofList (Time.Rfc3339.write ms.toInt.toNat)))
  else writeMilliseconds ms

/-- A regular expression. -/
def writePattern (pattern options : String) : Json :=
  marked .regularExpression
    (.object [("pattern", .string pattern), ("options", .string (sortedText options))])

/-- Bytes of a kind. -/
def writeBinary (subtype : UInt8) (bytes : List UInt8) : Json :=
  marked .binary (.object [("base64", .string (String.ofList (Text.Base64.encode bytes))),
    ("subType", .string (String.ofList (Text.Hex.encode [subtype])))])

/-- A time stamp. -/
def writeTimestamp (time increment : UInt32) : Json :=
  marked .timestamp (.object [("t", .ofInt time.toNat), ("i", .ofInt increment.toNat)])

/-- A reference to a document. -/
def writeReference (collection : String) (id : ObjectId) : Json :=
  marked .dbPointer (.object [("$ref", .string collection), ("$id", writeIdentifier id)])

/-- Bytes as an array of numbers. -/
def writeByteArray (bytes : List UInt8) : Json := .array (bytes.map fun b => .ofInt b.toNat)

mutual

/-- The relaxed form of a value. -/
def relaxed : Value → Json
  | .double d => writeDouble d
  | .string s => .string s
  | .array items => .array (relaxedItems items)
  | .document fields => .object (relaxedFields fields)
  | .boolean b => .boolean b
  | .null => .null
  | .regularExpression pattern options => writePattern pattern options
  | .javaScriptCode code => marked .code (.string code)
  | .javaScriptCodeWithScope code scope =>
    .object [(Mark.code.name, .string code), ("$scope", .object (inScopeFields scope))]
  | .int32 n => .ofInt n.toInt
  | .int64 n => .ofInt n.toInt
  | .timestamp time increment => writeTimestamp time increment
  | .binary subtype bytes => writeBinary subtype bytes
  | .objectId id => writeIdentifier id
  | .dateTime ms => writeInstant ms
  | .symbol s => marked .symbol (.string s)
  | .decimal128 d => marked .decimal128 (.string d.text)
  | .undefined => marked .undefined (.boolean true)
  | .maxKey => marked .maxKey (.ofInt 1)
  | .minKey => marked .minKey (.ofInt 1)
  | .dbPointer collection id => writeReference collection id

/-- The relaxed forms of values. -/
def relaxedItems : List Value → List Json
  | [] => []
  | v :: vs => relaxed v :: relaxedItems vs

/-- The relaxed forms of fields. -/
def relaxedFields : Document → List (String × Json)
  | [] => []
  | (name, v) :: rest => (name, relaxed v) :: relaxedFields rest

/-- The form of a value inside a scope. -/
def inScope : Value → Json
  | .double d => if d.isFinite then .number (.double d) else .null
  | .string s => .string s
  | .array items => .array (inScopeItems items)
  | .document fields => .object (inScopeFields fields)
  | .boolean b => .boolean b
  | .null => .null
  | .regularExpression pattern options => writePattern pattern options
  | .javaScriptCode code => marked .code (.string code)
  | .javaScriptCodeWithScope code scope =>
    .object [(Mark.code.name, .string code), ("$scope", .object (inScopeFields scope))]
  | .int32 n => .ofInt n.toInt
  | .int64 n => .ofInt n.toInt
  | .timestamp time increment => writeTimestamp time increment
  | .binary subtype bytes =>
    if subtype = 0 then writeByteArray bytes else writeBinary subtype bytes
  | .objectId id => writeIdentifier id
  | .dateTime ms => writeMilliseconds ms
  | .symbol s => marked .symbol (.string s)
  | .decimal128 d => marked .decimal128 (.string d.text)
  | .undefined => marked .undefined (.boolean true)
  | .maxKey => marked .maxKey (.ofInt 1)
  | .minKey => marked .minKey (.ofInt 1)
  | .dbPointer collection id => writeReference collection id

/-- The forms of values inside a scope. -/
def inScopeItems : List Value → List Json
  | [] => []
  | v :: vs => inScope v :: inScopeItems vs

/-- The forms of fields inside a scope. -/
def inScopeFields : Document → List (String × Json)
  | [] => []
  | (name, v) :: rest => (name, inScope v) :: inScopeFields rest

end

/-! ## The canonical form -/

/-- A double with its type, as a plain text with a point; a subnormal double stays a number. -/
def writeTypedDouble (d : Double) : Json :=
  if !d.isFinite then marked .double (.string (nonFiniteText d))
  else if d.isSubnormal then .number (.double d)
  else marked .double (.string (d.plainText true))

mutual

/-- The canonical form of a value. -/
def canonical : Value → Json
  | .double d => writeTypedDouble d
  | .array items => .array (canonicalItems items)
  | .document fields => .object (canonicalFields fields)
  | .javaScriptCodeWithScope code scope =>
    .object [(Mark.code.name, .string code), ("$scope", .object (canonicalFields scope))]
  | .int32 n => marked .int32 (intText n.toInt)
  | .int64 n => marked .int64 (intText n.toInt)
  | .dateTime ms => writeMilliseconds ms
  | v => relaxed v

/-- The canonical forms of values. -/
def canonicalItems : List Value → List Json
  | [] => []
  | v :: vs => canonical v :: canonicalItems vs

/-- The canonical forms of fields. -/
def canonicalFields : Document → List (String × Json)
  | [] => []
  | (name, v) :: rest => (name, canonical v) :: canonicalFields rest

end

end RemoteDriver.Bson
