import RemoteDriver.Codec
import RemoteDriver.Endpoint

/-!
# Options of a client

They are given as such or in the query of the endpoint's URL, where each option is decided by the
last value that it accepts and other names are left for the remote side.
-/

namespace RemoteDriver

/-- The options of a client. -/
structure Options where
  /-- The name of the application, for the user agent. -/
  appName : Option String
  /-- How long one fetch of a change stream may take, in milliseconds. -/
  changeStreamTimeout : Nat
  /-- The database that is used where none is named. -/
  defaultDatabase : Option String
  /-- How values cross the wire. -/
  codec : Codec

namespace Options

/-- How long one fetch of a change stream may take unless something else is asked for. -/
def standardTimeout : Nat := 30000

/-- The options where nothing is asked for. -/
def standard : Options := ⟨none, standardTimeout, none, .relaxed⟩

/-- The options with one more pair of a query. -/
def withPair (o : Options) (pair : String × String) : Options :=
  let (name, value) := pair
  if name = "appName" then { o with appName := some value }
  else if name = "changeStreamTimeoutMS" then
    match Number.natWithin? Number.maxUInt64 value.toList with
    | some timeout => { o with changeStreamTimeout := timeout }
    | none => o
  else if name = "defaultDatabase" ∧ value ≠ "" then { o with defaultDatabase := some value }
  else o

/-- The options that pairs of a query ask for. -/
def ofPairs (pairs : List (String × String)) : Options := pairs.foldl withPair standard

/-- The options that the URL of an endpoint asks for. -/
def ofText (uri : String) : Except Error Options :=
  match Endpoint.urlOfText uri with
  | .ok url => .ok (ofPairs url.queryPairs)
  | .error e => .error e

/-- The description of options; the codec is left out. -/
def description (o : Options) : String :=
  "ClientOptions \x7b app_name: " ++ Text.quotedOption o.appName ++ ", change_stream_timeout_ms: "
    ++ toString o.changeStreamTimeout ++ ", default_database: "
    ++ Text.quotedOption o.defaultDatabase ++ ", .. \x7d"

end Options

end RemoteDriver
