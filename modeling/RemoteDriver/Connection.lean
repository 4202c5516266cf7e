import RemoteDriver.Options
import RemoteDriver.Reply
import RemoteDriver.World

/-!
# Connections

The one way from a call to the remote side.  A call on a client that has been closed fails without
a request, and so does one with an argument that has no form on the wire; every other call is
posted once, whatever comes of it.
-/

namespace RemoteDriver

/-- What all handles of one client share. -/
structure Connection where
  /-- The number of the client. -/
  client : Nat
  /-- Where requests go. -/
  endpoint : Endpoint
  /-- How values cross the wire. -/
  codec : Codec
  /-- How long one fetch of a change stream may take, in milliseconds. -/
  streamTimeout : Nat

namespace Connection

/-- The error of a call on a client that has been closed. -/
def closedError (operation : String) : Error :=
  .usage operation "the client has been closed; create a new Client to keep issuing operations"

/-- What an answer means for a call. -/
def received (codec : Codec) (operation : String) : Content → Except Error Reply
  | .body v => Reply.decode codec operation v
  | .unreachable reason => .error (.connectivity operation reason)
  | .undecodable reason => .error (.protocol operation reason)

/-- The request of an envelope. -/
def request (c : Connection) (envelope : Envelope) : Request :=
  ⟨c.endpoint.url, c.endpoint.headers, envelope⟩

/-- Sends a call and decodes its reply. -/
def dispatch (c : Connection) (sender : Sender) (call : Call) (route : Route) : Action Reply :=
  fun limits w =>
    if w.isClosed c.client then (.error (.failed (closedError call.name)), w)
    else
      match Envelope.ofCall c.codec call route with
      | .error e => (.error (.failed e), w)
      | .ok envelope =>
        match Action.post sender (c.request envelope) limits w with
        | (.error h, w) => (.error h, w)
        | (.ok content, w) =>
          match received c.codec call.name content with
          | .ok reply => (.ok reply, w)
          | .error e => (.error (.failed e), w)

/-- Sends a call and gives up after `span` milliseconds. -/
def dispatchWithin (c : Connection) (span : Nat) (sender : Sender) (call : Call) (route : Route) :
    Action Reply :=
  Action.within call.name span (c.dispatch sender call route)

/-- Refuses all further calls; the result is whether this is the first time. -/
def close (c : Connection) : Action Bool := do
  let closed ← Action.look (·.isClosed c.client)
  Action.change (·.close c.client)
  return !closed

/-- The description of a connection. -/
def description (c : Connection) (w : World) : String :=
  "Dispatcher \x7b endpoint: " ++ c.endpoint.description ++ ", closed: "
    ++ Endpoint.truthText (w.isClosed c.client) ++ " \x7d"

end Connection

end RemoteDriver
