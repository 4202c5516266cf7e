import RemoteDriver.Bson.Basic
import RemoteDriver.Error

/-!
# Expected results

What an operation makes of the value that it gets back.  A value of another type than the
operation promises is an error of the response.
-/

namespace RemoteDriver.Expected

open Bson (Document Value)

/-- A document. -/
def document (operation : String) : Value → Except Error Document
  | .document d => .ok d
  | other => .error (.protocol operation ("expected a document, got " ++ other.typeName))

/-- A document or nothing. -/
def optionalDocument (operation : String) : Value → Except Error (Option Document)
  | .null => .ok none
  | other => (document operation other).map some

/-- A name among names. -/
def name (operation : String) : Value → Except Error String
  | .string s => .ok s
  | other => .error (.protocol operation ("expected a name, got " ++ other.typeName))

/-- The names of an array, or the error of the first element that is none. -/
def namesOf (operation : String) : List Value → Except Error (List String)
  | [] => .ok []
  | v :: vs =>
    match name operation v with
    | .error e => .error e
    | .ok s =>
      match namesOf operation vs with
      | .error e => .error e
      | .ok ss => .ok (s :: ss)

/-- An array of names. -/
def names (operation : String) : Value → Except Error (List String)
  | .array items => namesOf operation items
  | other => .error (.protocol operation ("expected an array of names, got " ++ other.typeName))

/-- An array. -/
def items (operation : String) : Value → Except Error (List Value)
  | .array items => .ok items
  | other => .error (.protocol operation ("expected an array, got " ++ other.typeName))

/-- The name of an index. -/
def indexName (operation : String) : Value → Except Error String
  | .string s => .ok s
  | other => .error (.protocol operation ("expected an index name, got " ++ other.typeName))

/-- The nearest number that 64 bits with a sign hold. -/
def clamped (n : Int) : Int :=
  if n < Number.minInt64 then Number.minInt64
  else if Number.maxInt64 < n then Number.maxInt64
  else n

/-- The whole number of a value, within 64 bits with a sign; a double counts if it is whole. -/
def whole? : Value → Option Int
  | .int32 n => some n.toInt
  | .int64 n => some n.toInt
  | .double d => d.toInt?.map clamped
  | _ => none

/-- A count. -/
def count (operation : String) (v : Value) : Except Error Nat :=
  match whole? v with
  | none => .error (.protocol operation ("expected a count, got " ++ v.typeName))
  | some n =>
    if 0 ≤ n then .ok n.toNat
    else .error (.protocol operation ("negative count " ++ toString n))

/-- A count in a document; an absent one is zero. -/
def countField (operation : String) (result : Document) (name : String) : Except Error Nat :=
  match result.lookup name with
  | some v => count operation v
  | none => .ok 0

end RemoteDriver.Expected
