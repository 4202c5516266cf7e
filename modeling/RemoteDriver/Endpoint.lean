import RemoteDriver.Error
import RemoteDriver.Text.Base64
import RemoteDriver.Text.Quoted
import RemoteDriver.Url.Parser
import RemoteDriver.Url.Query

/-!
# Endpoints

Where requests are posted and what they are authorized with.  The access key shows up in the
`Authorization` header and nowhere else; without a key there is no such header.
-/

namespace RemoteDriver

/-- Where the remote side is and the key to it. -/
structure Endpoint where
  /-- The URL that requests are posted to. -/
  url : Url
  /-- The access key; empty for anonymous access. -/
  accessKey : List UInt8
deriving DecidableEq, Repr

namespace Endpoint

/-- The operation that errors of setting up a client name. -/
def setUp : String := "Client::new"

/-- The URL of an endpoint. -/
def urlOfText (uri : String) : Except Error Url :=
  match Url.ofText uri with
  | .ok url => .ok url
  | .error fault =>
    .error (.usage setUp ("invalid endpoint URL `" ++ uri ++ "`: " ++ fault.message))

/-- Whether requests go out without credentials. -/
def isAnonymous (e : Endpoint) : Bool := e.accessKey.isEmpty

/-- The value of the header that carries the key. -/
def authorization (e : Endpoint) : Option String :=
  if e.isAnonymous then none
  else some ("Basic :" ++ String.ofList (Text.Base64.encode e.accessKey))

/-- The headers of every request. -/
def headers (e : Endpoint) : List (String × String) :=
  match e.authorization with
  | some value => [("Authorization", value)]
  | none => []

/-- A truth value as descriptions show it. -/
def truthText (b : Bool) : String := if b then "true" else "false"

/-- The description of an endpoint; the key is left out. -/
def description (e : Endpoint) : String :=
  "Endpoint \x7b url: " ++ Text.quoted e.url.text ++ ", anonymous: " ++ truthText e.isAnonymous
    ++ " \x7d"

end Endpoint

end RemoteDriver
