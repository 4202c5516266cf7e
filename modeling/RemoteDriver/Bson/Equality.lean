import RemoteDriver.Bson.Basic

/-!
# Equality of BSON values

Values compare as data: doubles as numbers, so that what is no number equals nothing, and
documents as maps, so that the order of their fields does not count.
-/

namespace RemoteDriver.Bson

/-- Whether a relation holds between the values of one name in two documents. -/
def matchesField (eq : Value → Bool) (name : String) (fields : Document) : Bool :=
  match fields.lookup name with
  | some v => eq v
  | none => false

mutual

/-- Equality of values as data. -/
def equal : Value → Value → Bool
  | .double a, .double b => a.sameNumber b
  | .string a, .string b => a == b
  | .array a, .array b => equalItems a b
  | .document a, .document b => a.length == b.length && equalFields a b
  | .boolean a, .boolean b => a == b
  | .null, .null => true
  | .regularExpression p o, .regularExpression q n => p == q && o == n
  | .javaScriptCode a, .javaScriptCode b => a == b
  | .javaScriptCodeWithScope a s, .javaScriptCodeWithScope b t =>
    a == b && s.length == t.length && equalFields s t
  | .int32 a, .int32 b => a == b
  | .int64 a, .int64 b => a == b
  | .timestamp a i, .timestamp b j => a == b && i == j
  | .binary a s, .binary b t => a == b && s == t
  | .objectId a, .objectId b => decide (a = b)
  | .dateTime a, .dateTime b => a == b
  | .symbol a, .symbol b => a == b
  | .decimal128 a, .decimal128 b => decide (a = b)
  | .undefined, .undefined => true
  | .maxKey, .maxKey => true
  | .minKey, .minKey => true
  | .dbPointer a i, .dbPointer b j => a == b && decide (i = j)
  | _, _ => false

/-- Equality of lists of values. -/
def equalItems : List Value → List Value → Bool
  | [], [] => true
  | a :: as, b :: bs => equal a b && equalItems as bs
  | _, _ => false

/-- Whether every field of the first document has an equal one in the second. -/
def equalFields : Document → Document → Bool
  | [], _ => true
  | (name, v) :: rest, fields => matchesField (equal v) name fields && equalFields rest fields

end

end RemoteDriver.Bson
