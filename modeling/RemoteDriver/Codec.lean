import RemoteDriver.Bson.Writer
import RemoteDriver.Error

/-!
# Codecs

A codec says which values may be sent, how they are written and how answers are read.  Two are
given: the relaxed codec, which every client uses unless told otherwise, and a strict one that
keeps all number types and refuses the two values at the ends of the order.
-/

namespace RemoteDriver

open Bson (Value Document)

/-- How values cross the wire. -/
structure Codec where
  /-- Checks that a value can be sent. -/
  validate : Value → Except Error Unit
  /-- Writes a value. -/
  encode : Value → Except Error Json
  /-- Reads a value. -/
  decode : Json → Except Error Value

namespace Codec

/-- Writes a document. -/
def encodeDocument (c : Codec) (d : Document) : Except Error Json := c.encode (.document d)

/-- Reads a document and nothing else. -/
def decodeDocument (c : Codec) (v : Json) : Except Error Document :=
  match c.decode v with
  | .error e => .error e
  | .ok (.document d) => .ok d
  | .ok other => .error (.codec ("expected document, found " ++ other.typeName))

/-! ## The relaxed codec -/

mutual

/-- The first double in a value that is no finite number; the scopes of code are left out. -/
def nonFinite? : Value → Option Double
  | .double d => if d.isFinite then none else some d
  | .array items => nonFiniteItem? items
  | .document fields => nonFiniteField? fields
  | _ => none

/-- The first double among values that is no finite number. -/
def nonFiniteItem? : List Value → Option Double
  | [] => none
  | v :: vs => match nonFinite? v with
    | some d => some d
    | none => nonFiniteItem? vs

/-- The first double among fields that is no finite number. -/
def nonFiniteField? : Document → Option Double
  | [] => none
  | (_, v) :: rest => match nonFinite? v with
    | some d => some d
    | none => nonFiniteField? rest

end

/-- Refuses values that hold a double without a JSON form. -/
def validateFinite (v : Value) : Except Error Unit :=
  match nonFinite? v with
  | none => .ok ()
  | some d => .error (.codec ("non-finite double " ++ d.plainText false ++ " has no JSON form"))

/-- Reads extended JSON. -/
def readExtended (v : Json) : Except Error Value :=
  match Bson.read v with
  | .ok value => .ok value
  | .error fault => .error (.codec fault.message)

/-- The codec that writes relaxed extended JSON. -/
def relaxed : Codec where
  validate := validateFinite
  encode v := match validateFinite v with
    | .ok _ => .ok (Bson.relaxed v)
    | .error e => .error e
  decode := readExtended

/-! ## The strict codec -/

/-- Refuses the two values at the ends of the order. -/
def validateKey : Value → Except Error Unit
  | .minKey => .error (.codec "no keys here")
  | .maxKey => .error (.codec "no keys here")
  | _ => .ok ()

/-- The codec that writes canonical extended JSON. -/
def canonical : Codec where
  validate := validateKey
  encode v := match validateKey v with
    | .ok _ => .ok (Bson.canonical v)
    | .error e => .error e
  decode v := match readExtended v with
    | .error e => .error e
    | .ok value => match validateKey value with
      | .ok _ => .ok value
      | .error e => .error e

end Codec

end RemoteDriver
