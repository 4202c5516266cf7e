import RemoteDriver.Url.Basic

/-!
# Reading URLs

A URL is read as the web reads it: blanks at its ends and line ends within it are dropped, scheme
and host are brought to lower case, dot segments of the path are resolved, and characters that a
part may not hold are encoded.  The schemes of the web take backslashes for slashes, need a host
and imply a port; any other scheme takes its host and its path as they are.
-/

namespace RemoteDriver.Url

/-! ## Schemes -/

/-- The kinds of schemes. -/
inductive SchemeKind
  /-- A scheme of the web, with the port that it implies. -/
  | web (port : Nat)
  /-- The scheme of local files. -/
  | file
  /-- Any other scheme. -/
  | other
deriving DecidableEq, Repr

/-- The kind of a scheme. -/
def schemeKind (scheme : List Char) : SchemeKind :=
  let name := String.ofList scheme
  if name = "http" ∨ name = "ws" then .web 80
  else if name = "https" ∨ name = "wss" then .web 443
  else if name = "ftp" then .web 21
  else if name = "file" then .file
  else .other

/-- Whether a scheme takes backslashes for slashes. -/
def SchemeKind.isSpecial : SchemeKind → Bool
  | other => false
  | _ => true

/-- A text without the controls and blanks at its ends. -/
def withoutEnds (s : List Char) : List Char :=
  let outer (c : Char) : Bool := c.toNat ≤ 0x20
  ((s.dropWhile outer).reverse.dropWhile outer).reverse

/-- Tabs and line ends, which a URL may be broken with. -/
def isBreak (c : Char) : Bool := c == '\t' || c == '\n' || c == '\r'

/-- A text without its breaks. -/
def withoutBreaks (s : List Char) : List Char := s.filter (!isBreak ·)

/-- The scheme at the front of a text in lower case, and what follows its colon. -/
def scheme? (s : List Char) : Option (List Char × List Char) :=
  let inScheme (c : Char) : Bool := c.isAlphanum || c == '+' || c == '-' || c == '.'
  match s with
  | c :: _ =>
    if c.isAlpha then
      match s.dropWhile inScheme with
      | ':' :: rest => some ((s.takeWhile inScheme).map Char.toLower, rest)
      | _ => none
    else none
  | [] => none

/-! ## Authority -/

/-- Whether a character ends the authority. -/
def endsAuthority (special : Bool) (c : Char) : Bool :=
  c == '/' || c == '?' || c == '#' || (special && c == '\\')

/-- The text before the last at sign, if there is one, and the text after it. -/
def userAndRest (s : List Char) : Option (List Char) × List Char :=
  if s.contains '@' then
    let back := s.reverse.takeWhile (· ≠ '@')
    (some (s.take (s.length - back.length - 1)), back.reverse)
  else (none, s)

/-- The host at the front of a text, and what follows: it ends at a colon outside of brackets. -/
def hostAndRest : (bracketed : Bool) → List Char → List Char × List Char
  | _, [] => ([], [])
  | bracketed, c :: r =>
    if c = ':' ∧ !bracketed then ([], c :: r)
    else
      let (host, rest) := hostAndRest (if c = '[' then true else if c = ']' then false
        else bracketed) r
      (c :: host, rest)

/-- The port that digits stand for. -/
def port? (implied : Option Nat) (digits : List Char) : Except Fault (Option Nat) :=
  if digits = [] then .ok none
  else
    match Number.digits? digits with
    | some n =>
      if 65535 < n then .error .invalidPort
      else .ok (if implied = some n then none else some n)
    | none => .error .invalidPort

/-- The authority of a text that ends with it; `next` tells whether anything follows. -/
def authorityOf (kind : SchemeKind) (next : Bool) (s : List Char) : Except Fault Authority := do
  let (user, rest) := userAndRest s
  if user = some [] ∧ rest = [] ∧ next then throw .emptyHost
  let user := user.getD []
  let username := Percent.encode Percent.inUserInfo (user.takeWhile (· ≠ ':'))
  let password := Percent.encode Percent.inUserInfo ((user.dropWhile (· ≠ ':')).drop 1)
  let (hostText, rest) := hostAndRest false rest
  let host ← match kind with
    | .other => if hostText = [] then pure none else (Host.ofOpaqueText hostText).map some
    | _ => if hostText = [] then throw .emptyHost else (Host.ofText hostText).map some
  match rest with
  | ':' :: digits =>
    if host = none then throw .emptyHost
    let implied := match kind with
      | .web port => some port
      | _ => none
    -- a backslash ends the port of any scheme
    let port ← port? implied (digits.takeWhile (· ≠ '\\'))
    return ⟨username, password, host, port⟩
  | _ =>
    if host = none ∧ (username ≠ [] ∨ password ≠ []) then throw .emptyHost
    return ⟨username, password, host, none⟩

/-! ## Path -/

/-- Whether a segment stands for the directory itself. -/
def isSingleDot (s : List Char) : Bool :=
  ["." , "%2e"].contains (String.ofList (s.map Char.toLower))

/-- Whether a segment stands for the directory above. -/
def isDoubleDot (s : List Char) : Bool :=
  ["..", ".%2e", "%2e.", "%2e%2e"].contains (String.ofList (s.map Char.toLower))

/-- Whether a segment names a drive, its colon in either form. -/
def isDrive : List Char → Bool
  | [c, d] => c.isAlpha && (d == ':' || d == '|')
  | _ => false

/-- The name of a drive at the front of a segment, and what a break separates from it. -/
def brokenDrive? (raw : List Char) : Option (List Char × List Char) :=
  match raw.dropWhile isBreak with
  | c :: r =>
    match r.dropWhile isBreak with
    | ':' :: b :: r =>
      let rest := withoutBreaks r
      if c.isAlpha && isBreak b && rest ≠ [] then some ([c, ':'], rest) else none
    | _ => none
  | [] => none

/-- A path on the way through its segments. -/
structure Walk where
  /-- The names so far. -/
  names : List (List Char)
  /-- Whether the path began with a drive. -/
  onDrive : Bool

namespace Walk

/-- Where every path begins. -/
def start : Walk := ⟨[], false⟩

/-- One name down. -/
def down (w : Walk) (name : List Char) : Walk := { w with names := w.names ++ [name] }

/-- One name up; nothing leads up from a drive. -/
def up (w : Walk) : Walk :=
  if w.names.getLast?.any isDrive then w else { w with names := w.names.dropLast }

/-- The way through one segment.  A dot segment that is the `last` one leaves an empty name
behind.  The first name of a local path may be a drive: its bar becomes a colon, and a break
after it ends the name. -/
def step (file last : Bool) (w : Walk) (raw : List Char) : Walk :=
  let first := file && w.names.isEmpty
  match if first then brokenDrive? raw else none with
  | some (drive, rest) => (w.down drive).down (Percent.encode Percent.inPath rest)
  | none =>
    let s := withoutBreaks raw
    let settled (w : Walk) : Walk := if last then w.down [] else w
    if isDoubleDot s then settled w.up
    else if isSingleDot s then settled w
    else if first && isDrive s then ⟨[[s.headD 'C', ':']], true⟩
    else w.down (Percent.encode Percent.inPath s)

/-- The way through all segments. -/
def through (file : Bool) (w : Walk) : List (List Char) → Walk
  | [] => w
  | s :: rest => through file (w.step file rest.isEmpty s) rest

end Walk

/-- The pieces of a text between slashes; backslashes count as slashes for special schemes. -/
def segmentsOf (special : Bool) (s : List Char) : List (List Char) :=
  Text.pieces '/' (if special then s.map fun c => if c = '\\' then '/' else c else s)

/-- The path of a text that begins after its first slash. -/
def pathOf (kind : SchemeKind) (s : List Char) : Path :=
  .segments (Walk.start.through false (segmentsOf kind.isSpecial s)).names

/-- The path after an authority: it may be empty only for schemes that are not special. -/
def pathAfterAuthority (kind : SchemeKind) (s : List Char) : Path :=
  match s with
  | [] => if kind.isSpecial then .segments [[]] else .segments []
  | c :: r => pathOf kind (if c = '/' ∨ (kind.isSpecial ∧ c = '\\') then r else s)

/-! ## The whole -/

/-- What stands before query and fragment, the query, and the fragment. -/
def splitEnd (special : Bool) (s : List Char) :
    List Char × Option (List Char) × Option (List Char) :=
  let encoded (set : Char → Bool) (s : List Char) : List Char :=
    Percent.encode set (withoutBreaks s)
  let (front, fragment) := match Text.cut? '#' s with
    | some (front, fragment) => (front, some (encoded Percent.inFragment fragment))
    | none => (s, none)
  match Text.cut? '?' front with
  | some (front, query) => (front, some (encoded (Percent.inQuery special) query), fragment)
  | none => (front, none, fragment)

/-- A URL with an authority, from the text after its double slash up to the query. -/
def withAuthority (scheme : List Char) (kind : SchemeKind) (front : List Char)
    (query fragment : Option (List Char)) : Except Fault Url := do
  let special := kind.isSpecial
  let inside := front.takeWhile (!endsAuthority special ·)
  let rest := front.drop inside.length
  let next := rest ≠ [] ∨ query.isSome ∨ fragment.isSome
  let authority ← authorityOf kind next inside
  -- a backslash after the port begins the path of any scheme
  let odd := if special then [] else
    ((hostAndRest false (userAndRest inside).2).2.dropWhile (· ≠ '\\'))
  return ⟨scheme, some authority, pathAfterAuthority kind (odd ++ rest), query, fragment⟩

/-- Whether a character separates the names of a local path. -/
def isSlash (c : Char) : Bool := c == '/' || c == '\\'

/-- A text after the slash that it begins with, breaks aside. -/
def afterSlash? (s : List Char) : Option (List Char) :=
  match s.dropWhile isBreak with
  | c :: r => if isSlash c then some r else none
  | [] => none

/-- The URL of a local path that begins with `text`, which may still have its breaks.  A drive
has no host, and empty names at the front are dropped. -/
def localUrl (scheme : List Char) (host : Option Host) (text : List Char)
    (query fragment : Option (List Char)) : Url :=
  let walk := Walk.start.through true (segmentsOf true text)
  let names := match walk.names.dropWhile (· = []) with
    | [] => [[]]
    | names => names
  ⟨scheme, some ⟨[], [], if walk.onDrive then none else host, none⟩, .segments names, query,
    fragment⟩

/-- The URL of a local file, from the text after its scheme up to the query.  After two slashes
comes a host, unless it is a drive; without one, the slash after it counts as part of the path, so
that no name that follows is the first. -/
def fileUrl (scheme : List Char) (front : List Char) (query fragment : Option (List Char)) :
    Except Fault Url :=
  let url (host : Option Host) (text : List Char) : Url :=
    localUrl scheme host text query fragment
  match afterSlash? front with
  | none => .ok (url none front)
  | some r =>
    match afterSlash? r with
    | none => .ok (url none r)
    | some r => do
      let name := withoutBreaks (r.takeWhile (!isSlash ·))
      let rest := r.dropWhile (!isSlash ·)
      if isDrive name then return url none r
      else if name = [] then return url none rest
      else
        let host ← Host.ofText name
        if host = .domain "localhost".toList then return url none rest
        else return url (some host) (rest.drop 1)

/-- The URL that a text stands for. -/
def ofText (text : String) : Except Fault Url :=
  let whole := withoutEnds text.toList
  match scheme? (withoutBreaks whole) with
  | none => .error .relative
  | some (scheme, rest) =>
    let kind := schemeKind scheme
    let (front, query, fragment) := splitEnd (kind.isSpecial) rest
    match kind with
    | .web _ => withAuthority scheme kind (front.dropWhile isSlash) query fragment
    | .file =>
      -- the path of a local file is read with its breaks
      let (front, _) := splitEnd true ((whole.dropWhile (· ≠ ':')).drop 1)
      fileUrl scheme front query fragment
    | .other =>
      match front with
      | '/' :: '/' :: r => withAuthority scheme kind r query fragment
      | '/' :: r => .ok ⟨scheme, none, pathOf kind r, query, fragment⟩
      | _ => .ok ⟨scheme, none, .bare (Percent.encode Percent.isControl front), query, fragment⟩

end RemoteDriver.Url
