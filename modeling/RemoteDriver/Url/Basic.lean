import RemoteDriver.Url.Host

/-!
# URLs

A URL in its normal form: every part is encoded already, and its text is put together from the
parts.
-/

namespace RemoteDriver

namespace Url

/-- Who is addressed. -/
structure Authority where
  /-- The user name, encoded. -/
  username : List Char
  /-- The password, encoded; empty if there is none. -/
  password : List Char
  /-- The host; nothing where a URL has an authority without one. -/
  host : Option Host
  /-- The port, unless it is the one that the scheme implies. -/
  port : Option Nat
deriving DecidableEq, Repr

/-- What is asked for. -/
inductive Path
  /-- A text without structure. -/
  | bare (text : List Char)
  /-- Names below each other, each with a slash in front. -/
  | segments (names : List (List Char))
deriving DecidableEq, Repr

end Url

/-- A URL. -/
structure Url where
  /-- The scheme in lower case. -/
  scheme : List Char
  /-- The authority, if there is one. -/
  authority : Option Url.Authority
  /-- The path. -/
  path : Url.Path
  /-- The query without its question mark, encoded. -/
  query : Option (List Char)
  /-- The fragment without its number sign, encoded. -/
  fragment : Option (List Char)
deriving DecidableEq, Repr

namespace Url

/-- The text of an authority. -/
def Authority.text (a : Authority) : List Char :=
  let user :=
    if a.username = [] ∧ a.password = [] then []
    else a.username ++ (if a.password = [] then [] else ':' :: a.password) ++ ['@']
  let host := match a.host with
    | some host => host.text
    | none => []
  let port := match a.port with
    | some port => ':' :: (toString port).toList
    | none => []
  user ++ host ++ port

/-- The text of a path. -/
def Path.text : Path → List Char
  | .bare text => text
  | .segments names => names.flatMap ('/' :: ·)

/-- The query with its question mark. -/
def queryText (u : Url) : List Char :=
  match u.query with
  | some query => '?' :: query
  | none => []

/-- The text of a URL.  A path that begins with two slashes is marked with a point where no
authority stands before it. -/
def text (u : Url) : String :=
  let authority := match u.authority with
    | some a => '/' :: '/' :: a.text
    | none => match u.path with
      | .segments ([] :: _ :: _) => ['/', '.']
      | _ => []
  let fragment := match u.fragment with
    | some fragment => '#' :: fragment
    | none => []
  String.ofList (u.scheme ++ ':' :: (authority ++ u.path.text ++ u.queryText ++ fragment))

/-- What a request asks a server for: path and query. -/
def requestTarget (u : Url) : String := String.ofList (u.path.text ++ u.queryText)

end Url

end RemoteDriver
