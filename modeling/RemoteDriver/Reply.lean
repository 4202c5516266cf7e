import RemoteDriver.Codec
import RemoteDriver.Json.Fault

/-!
# Replies

A response is an object whose `kind` tells what it carries: a value, the first or next part of a
result set, a step of a subscription, or the reason why the remote side rejected the request.
Members that a kind does not know are ignored.  Decoding is all or nothing: one value that does
not decode makes an error of the whole.
-/

namespace RemoteDriver

open Bson (Value Document)
open Json (Fault)

/-- A response before its values are decoded. -/
inductive Response
  /-- A value. -/
  | value (payload : Json)
  /-- A part of a result set. -/
  | cursor (id : Option String) (batch : List Json) (reportedNamespace : Option String)
  /-- A step of a subscription. -/
  | stream (id : Option String) (resumeToken event : Json) (alive : Bool)
  /-- A rejection. -/
  | error (reason : String)

namespace Response

/-! ## Reading -/

/-- A text or `null`. -/
def optionalText : Json → Except Fault (Option String)
  | .null => .ok none
  | v => (Json.asString v).map some

/-- An array. -/
def asItems : Json → Except Fault (List Json)
  | .array items => .ok items
  | v => .error (Json.wrongType v "a sequence")

/-- A member of a record, or what stands in for it. -/
def fieldOr {α : Type} (name : String) (default : α) (read : Json → Except Fault α)
    (members : List (String × Json)) : Except Fault α :=
  match members.lookup name with
  | some v => read v
  | none => .ok default

/-- The fault of an array with more elements than a record has members. -/
def surplus (length known : Nat) : Fault :=
  .invalidLength length (Json.elementCount known ++ " in sequence")

/-- The members of a record of these names, or of an array of their values in this order, the last
ones left out; `check` is applied to each in turn. -/
def payloadMembers (type : String) (names : List String)
    (check : String → Json → Except Fault Unit) : Json → Except Fault (List (String × Json))
  | .object members => do
    Json.checkKnown names check members
    return members
  | .array items => do
    let members := names.zip items
    Json.checkKnown names check members
    if names.length < items.length then throw (surplus items.length names.length)
    return members
  | v => .error (Json.wrongType v ("struct " ++ type))

/-- Whether a member of a part of a result set has its type. -/
def checkCursor (name : String) (v : Json) : Except Fault Unit :=
  if name = "batch" then do let _ ← asItems v else do let _ ← optionalText v

/-- A part of a result set. -/
def readCursor (v : Json) : Except Fault Response := do
  let members ← payloadMembers "CursorPayload" ["cursor_id", "batch", "namespace"] checkCursor v
  let id ← fieldOr "cursor_id" none optionalText members
  let batch ← fieldOr "batch" [] asItems members
  let origin ← fieldOr "namespace" none optionalText members
  return .cursor id batch origin

/-- Whether a member of a step of a subscription has its type. -/
def checkStream (name : String) (v : Json) : Except Fault Unit :=
  if name = "stream_id" then do let _ ← optionalText v
  else if name = "alive" then do let _ ← Json.asBoolean v
  else .ok ()

/-- A step of a subscription. -/
def readStream (v : Json) : Except Fault Response := do
  let members ← payloadMembers "StreamPayload" ["stream_id", "resume_token", "event", "alive"]
    checkStream v
  let id ← fieldOr "stream_id" none optionalText members
  let alive ← fieldOr "alive" true Json.asBoolean members
  return .stream id ((members.lookup "resume_token").getD .null)
    ((members.lookup "event").getD .null) alive

/-- The kinds of responses. -/
inductive Kind
  /-- A value. -/
  | value
  /-- A part of a result set. -/
  | cursor
  /-- A step of a subscription. -/
  | stream
  /-- A rejection. -/
  | error
deriving DecidableEq, Repr

namespace Kind

/-- The name of a kind. -/
def name : Kind → String
  | value => "value"
  | cursor => "cursor"
  | stream => "stream"
  | error => "error"

/-- All kinds. -/
def all : List Kind := [value, cursor, stream, error]

/-- The kind that a value names. -/
def ofJson : Json → Except Fault Kind
  | .string s =>
    match all.find? (·.name = s) with
    | some kind => .ok kind
    | none => .error (.unknownVariant s (all.map name))
  | v => .error (Json.wrongType v "variant identifier")

/-- The name of the member that a kind of response carries. -/
def member : Kind → String
  | error => "reason"
  | _ => "payload"

/-- The name of a kind where an array lacks what it should carry. -/
def variantName : Kind → String
  | value => "Value"
  | cursor => "Cursor"
  | stream => "Stream"
  | error => "Error"

end Kind

/-- The response of a kind from what it carries. -/
def readKind : Kind → Json → Except Fault Response
  | .value, v => .ok (.value v)
  | .cursor, v => readCursor v
  | .stream, v => readStream v
  | .error, v => (Json.asString v).map .error

/-- The response of an object. -/
def ofMembers (members : List (String × Json)) : Except Fault Response :=
  match members.lookup "kind" with
  | none => .error (.missingField "kind")
  | some v => do
    let kind ← Kind.ofJson v
    match members.lookup kind.member with
    | some payload => readKind kind payload
    | none =>
      if kind = .value then return .value .null else throw (.missingField kind.member)

/-- The response of an array of a kind and what it carries. -/
def ofItems : List Json → Except Fault Response
  | [] => .error (.missingField "kind")
  | v :: rest => do
    let kind ← Kind.ofJson v
    match rest with
    | [] =>
      if kind = .value then return .value .null
      else throw (.invalidLength 0
        ("struct variant ResponseEnvelope::" ++ kind.variantName ++ " with 1 element"))
    | payload :: more =>
      let response ← readKind kind payload
      if more ≠ [] then throw (surplus rest.length 1)
      return response

/-- The response that a value stands for. -/
def ofJson : Json → Except Fault Response
  | .object members => ofMembers members
  | .array items => ofItems items
  | v => .error (Json.wrongType v "internally tagged enum ResponseEnvelope")

end Response

/-! ## Decoded replies -/

/-- What a result set starts from, or is continued with. -/
structure CursorSeed where
  /-- The token to continue with; none once there is no more. -/
  cursorId : Option String
  /-- The documents of this part. -/
  batch : List Document
  /-- The namespace of the result set, where it is told. -/
  reportedNamespace : Option String

/-- What a subscription starts from, or one step of it. -/
structure StreamSeed where
  /-- The token of the subscription. -/
  streamId : Option String
  /-- The token to resume after the event. -/
  resumeToken : Option Document
  /-- The event of this step. -/
  event : Option Document
  /-- Whether the remote side keeps the subscription. -/
  alive : Bool

/-- A decoded response. -/
inductive Reply
  /-- A value. -/
  | value (v : Value)
  /-- A result set. -/
  | cursor (seed : CursorSeed)
  /-- A subscription. -/
  | stream (seed : StreamSeed)

namespace Reply

/-- The kind of a reply. -/
def kind : Reply → Response.Kind
  | .value _ => .value
  | .cursor _ => .cursor
  | .stream _ => .stream

/-- The error of a reply of another kind than the operation expects. -/
def unexpected (operation : String) (expected : Response.Kind) (reply : Reply) : Error :=
  .protocol operation
    ("expected a " ++ expected.name ++ " reply, got " ++ reply.kind.name)

/-- The value of a reply. -/
def toValue (operation : String) : Reply → Except Error Value
  | .value v => .ok v
  | other => .error (unexpected operation .value other)

/-- The result set of a reply. -/
def toCursor (operation : String) : Reply → Except Error CursorSeed
  | .cursor seed => .ok seed
  | other => .error (unexpected operation .cursor other)

/-- The subscription of a reply. -/
def toStream (operation : String) : Reply → Except Error StreamSeed
  | .stream seed => .ok seed
  | other => .error (unexpected operation .stream other)

/-! ## Decoding -/

/-- The error of a response that holds a value which does not decode. -/
def undecodable (operation : String) (e : Error) : Error := .protocol operation e.message

/-- Documents, or the error of the first that does not decode. -/
def documents (codec : Codec) : List Json → Except Error (List Document)
  | [] => .ok []
  | v :: vs =>
    match codec.decodeDocument v with
    | .error e => .error e
    | .ok d =>
      match documents codec vs with
      | .error e => .error e
      | .ok ds => .ok (d :: ds)

/-- A document, or nothing where `null` stands. -/
def optionalDocument (codec : Codec) : Json → Except Error (Option Document)
  | .null => .ok none
  | v => (codec.decodeDocument v).map some

/-- The reply of a response. -/
def ofResponse (codec : Codec) (operation : String) : Response → Except Error Reply
  | .value payload =>
    match codec.decode payload with
    | .ok v => .ok (.value v)
    | .error e => .error (undecodable operation e)
  | .cursor id batch origin =>
    match documents codec batch with
    | .ok ds => .ok (.cursor ⟨id, ds, origin⟩)
    | .error e => .error (undecodable operation e)
  | .stream id token event alive =>
    match optionalDocument codec token with
    | .error e => .error (undecodable operation e)
    | .ok token =>
      match optionalDocument codec event with
      | .error e => .error (undecodable operation e)
      | .ok event => .ok (.stream ⟨id, token, event, alive⟩)
  | .error reason => .error (.operation operation reason)

/-- The reply that the body of a response stands for. -/
def decode (codec : Codec) (operation : String) (body : Json) : Except Error Reply :=
  match Response.ofJson body with
  | .ok response => ofResponse codec operation response
  | .error fault => .error (.protocol operation fault.message)

end Reply

end RemoteDriver
