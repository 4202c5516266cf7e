import RemoteDriver.Client
import RemoteDriver.Text.Utf8

/-!
# Requests over HTTP

Every request is a POST of JSON to the URL of the endpoint.  The body of the response is read
whatever its status is; the status shows up only in the error about a body that is no JSON.
-/

namespace RemoteDriver.Http

/-! ## Requests -/

/-- The version of the library. -/
def version : String := "0.1.0"

/-- The method of every request. -/
def method : String := "POST"

/-- The type of the body of every request. -/
def contentType : String := "application/json"

/-- The user agent that requests name: the library, and the application if it has a name. -/
def userAgent (appName : Option String) : String :=
  "mongo-proxy/" ++ version ++ match appName with
    | some name => " " ++ name
    | none => ""

/-- Whether a text can be the value of a header: of control characters, the tab alone can. -/
def isHeaderValue (s : String) : Bool :=
  s.toList.all fun c => c = '\t' || (32 ≤ c.toNat && c.toNat ≠ 127)

/-- Checks that requests can name the application. -/
def checkUserAgent (appName : Option String) : Except Error Unit :=
  if isHeaderValue (userAgent appName) then .ok ()
  else
    let failure := Content.unreachable "builder error: failed to parse header value"
    .error (.connectivity Endpoint.setUp (failure.failure?.getD ""))

/-- The client number `serial` of an endpoint with options, its requests sent over HTTP. -/
def connect (serial : Nat) (uri : String) (accessKey : List UInt8) (options : Options) :
    Except Error Client :=
  match checkUserAgent options.appName with
  | .ok _ => Client.ofOptions serial uri accessKey options
  | .error e => .error e

/-- The client number `serial` of an endpoint with the options that the URL tells. -/
def connectByUrl (serial : Nat) (uri : String) (accessKey : List UInt8) : Except Error Client :=
  match Options.ofText uri with
  | .ok options => connect serial uri accessKey options
  | .error e => .error e

/-! ## Responses -/

/-- A response of a server. -/
structure Response where
  /-- Its status. -/
  status : Nat
  /-- The bytes that follow the headers. -/
  bytes : List UInt8

/-- What a server does with a request. -/
inductive Reaction
  /-- It responds. -/
  | respond (r : Response)
  /-- It closes the connection before the end of a response. -/
  | breakOff
  /-- There is no server. -/
  | refuse

/-- The standard phrases of statuses. -/
def reasonPhrases : List (Nat × String) :=
  [(100, "Continue"), (101, "Switching Protocols"), (102, "Processing"), (103, "Early Hints"),
    (200, "OK"), (201, "Created"), (202, "Accepted"), (203, "Non Authoritative Information"),
    (204, "No Content"), (205, "Reset Content"), (206, "Partial Content"), (207, "Multi-Status"),
    (208, "Already Reported"), (226, "IM Used"),
    (300, "Multiple Choices"), (301, "Moved Permanently"), (302, "Found"), (303, "See Other"),
    (304, "Not Modified"), (305, "Use Proxy"), (307, "Temporary Redirect"),
    (308, "Permanent Redirect"),
    (400, "Bad Request"), (401, "Unauthorized"), (402, "Payment Required"), (403, "Forbidden"),
    (404, "Not Found"), (405, "Method Not Allowed"), (406, "Not Acceptable"),
    (407, "Proxy Authentication Required"), (408, "Request Timeout"), (409, "Conflict"),
    (410, "Gone"), (411, "Length Required"), (412, "Precondition Failed"),
    (413, "Payload Too Large"), (414, "URI Too Long"), (415, "Unsupported Media Type"),
    (416, "Range Not Satisfiable"), (417, "Expectation Failed"), (418, "I'm a teapot"),
    (421, "Misdirected Request"), (422, "Unprocessable Entity"), (423, "Locked"),
    (424, "Failed Dependency"), (425, "Too Early"), (426, "Upgrade Required"),
    (428, "Precondition Required"), (429, "Too Many Requests"),
    (431, "Request Header Fields Too Large"), (451, "Unavailable For Legal Reasons"),
    (500, "Internal Server Error"), (501, "Not Implemented"), (502, "Bad Gateway"),
    (503, "Service Unavailable"), (504, "Gateway Timeout"), (505, "HTTP Version Not Supported"),
    (506, "Variant Also Negotiates"), (507, "Insufficient Storage"), (508, "Loop Detected"),
    (510, "Not Extended"), (511, "Network Authentication Required")]

/-- A status with its standard phrase. -/
def statusText (status : Nat) : String :=
  toString status ++ " " ++ (reasonPhrases.lookup status).getD "<unknown status code>"

namespace Response

/-- The statuses whose responses have no body, whatever follows the headers. -/
def bodiless : List Nat := [101, 204, 304]

/-- The body of a response. -/
def body (r : Response) : List UInt8 := if bodiless.contains r.status then [] else r.bytes

/-- Whether a response is one to a request: a status has three digits, and those below 200
announce another response, except for a change of protocol. -/
def isFinal (r : Response) : Bool :=
  r.status = 101 || (200 ≤ r.status && r.status < 1000)

/-- The body of a response as JSON. -/
def json? (r : Response) : Option Json :=
  (Text.Utf8.decode? r.body).bind fun s => Json.ofText? (String.ofList s)

/-- What a response brings. -/
def content (r : Response) : Content :=
  match r.json? with
  | some v => .body v
  | none => .undecodable (statusText r.status ++ ": " ++ Json.unreadable)

end Response

namespace Reaction

/-- What a request brings.  The words for a broken connection are the system's and left out. -/
def content : Reaction → Content
  | respond r => if r.isFinal then r.content else .unreachable ""
  | breakOff => .unreachable ""
  | refuse => .unreachable ""

/-- Whether a server sees the request. -/
def isSeen : Reaction → Bool
  | refuse => false
  | _ => true

/-- A remote side that is this server. -/
def remote (r : Reaction) : Remote := .ofAnswer ⟨some r.content, 0⟩

end Reaction

end RemoteDriver.Http
