import RemoteDriver.Number.Reading
import RemoteDriver.Text.Blank
import RemoteDriver.Url.Domain.Name
import RemoteDriver.Url.Percent

/-!
# Hosts

The host of a URL is a domain name, an address of four bytes, or an address of eight words.  A
domain name is kept in its ASCII form and in lower case; a name whose last label is a number has
to be an address.
-/

namespace RemoteDriver.Url

/-- Why a text is no URL. -/
inductive Fault
  /-- It begins with no scheme, so that it only makes sense relative to another URL. -/
  | relative
  /-- The host is missing. -/
  | emptyHost
  /-- The host has a character that no domain name has. -/
  | invalidDomain
  /-- The host of a URL of an unknown scheme has a character that it may not have. -/
  | invalidDomainCharacter
  /-- The port is no number of sixteen bits. -/
  | invalidPort
  /-- The host ends like an address of four bytes and is none. -/
  | invalidIpv4
  /-- The host in brackets is no address of eight words. -/
  | invalidIpv6
deriving DecidableEq, Repr

/-- The message of a fault. -/
def Fault.message : Fault → String
  | relative => "relative URL without a base"
  | emptyHost => "empty host"
  | invalidDomain => "invalid international domain name"
  | invalidDomainCharacter => "invalid domain character"
  | invalidPort => "invalid port number"
  | invalidIpv4 => "invalid IPv4 address"
  | invalidIpv6 => "invalid IPv6 address"

/-- The host of a URL. -/
inductive Host
  /-- A name. -/
  | domain (name : List Char)
  /-- An address of four bytes, as one number. -/
  | ipv4 (address : Nat)
  /-- An address of eight words. -/
  | ipv6 (words : List Nat)
deriving DecidableEq, Repr

namespace Host

/-! ## Addresses of four bytes -/

/-- The value of a digit in a base of at most sixteen. -/
def digitIn? (base : Nat) (c : Char) : Option Nat :=
  match Text.Hex.value? c with
  | some n => if n < base then some n else none
  | none => none

/-- The number of digits in a base. -/
def numberIn? (base : Nat) (s : List Char) : Option Nat :=
  s.foldl (fun acc c => do return (← acc) * base + (← digitIn? base c)) (some 0)

/-- A number in the ways that addresses spell it: decimal, octal after a zero, hexadecimal after
`0x`. -/
def ipv4Number? : List Char → Option Nat
  | [] => none
  | '0' :: 'x' :: r => numberIn? 16 r
  | '0' :: 'X' :: r => numberIn? 16 r
  | '0' :: c :: r => numberIn? 8 (c :: r)
  | s => numberIn? 10 s

/-- The labels of a name, the empty one after a last point left out. -/
def labels (name : List Char) : List (List Char) :=
  let all := Text.pieces '.' name
  if all.getLast? = some [] then all.dropLast else all

/-- Whether the last label of a name is a number. -/
def endsInNumber (name : List Char) : Bool :=
  match (labels name).getLast? with
  | some label => (label ≠ [] && label.all Number.isDigit) || (ipv4Number? label).isSome
  | none => false

/-- The address that a name which ends in a number stands for. -/
def ipv4? (name : List Char) : Except Fault Host :=
  let parts := labels name
  match parts.mapM ipv4Number? with
  | some numbers =>
    match numbers.getLast? with
    | some last =>
      let front := numbers.dropLast
      if 4 < numbers.length ∨ front.any (255 < ·)
          ∨ Number.twoTo (8 * (5 - numbers.length)) ≤ last then
        .error .invalidIpv4
      else
        .ok (.ipv4 (last + ((List.range front.length).zip front).foldl
          (fun acc (i, n) => acc + n * Number.twoTo (8 * (3 - i))) 0))
    | none => .error .invalidIpv4
  | none => .error .invalidIpv4

/-- The text of an address of four bytes. -/
def ipv4Text (address : Nat) : List Char :=
  Text.joined '.' ([3, 2, 1, 0].map fun i =>
    (toString (address / Number.twoTo (8 * i) % 256)).toList)

/-! ## Addresses of eight words -/

/-- A word of one to four hexadecimal digits. -/
def word? (s : List Char) : Option Nat :=
  if s ≠ [] ∧ s.length ≤ 4 then numberIn? 16 s else none

/-- A byte in decimal digits without a zero in front. -/
def byte? (s : List Char) : Option Nat :=
  match s with
  | '0' :: _ :: _ => none
  | _ => match Number.digits? s with
    | some n => if n ≤ 255 then some n else none
    | none => none

/-- The two words that four bytes with points between them stand for. -/
def twoWords? (s : List Char) : Option (List Nat) :=
  match (Text.pieces '.' s).mapM byte? with
  | some [a, b, c, d] => some [a * 256 + b, c * 256 + d]
  | _ => none

/-- The words of the parts between colons; the last part may be four bytes if `bytes` says so. -/
def words? (bytes : Bool) : List (List Char) → Option (List Nat)
  | [] => some []
  | [last] => if bytes && last.contains '.' then twoWords? last else (word? last).map ([·])
  | p :: q :: rest => do
    let w ← word? p
    let ws ← words? bytes (q :: rest)
    return w :: ws

/-- The words of a text with single colons, none if it is empty. -/
def wordsOf? (bytes : Bool) (s : List Char) : Option (List Nat) :=
  if s = [] then some [] else words? bytes (Text.pieces ':' s)

/-- The text before and the text after the first double colon. -/
def cutDouble? : List Char → Option (List Char × List Char)
  | ':' :: ':' :: r => some ([], r)
  | c :: r => (cutDouble? r).map fun (a, b) => (c :: a, b)
  | [] => none

/-- The address that a text stands for.  A double colon stands for as many zeros as are missing,
at least one. -/
def ipv6? (s : List Char) : Except Fault Host :=
  let words := match cutDouble? s with
    | some (front, back) =>
      match wordsOf? false front, wordsOf? true back with
      | some a, some b =>
        if a.length + b.length ≤ 7 then
          some (a ++ List.replicate (8 - a.length - b.length) 0 ++ b)
        else none
      | _, _ => none
    | none => (wordsOf? true s).filter (·.length = 8)
  match words with
  | some words => .ok (.ipv6 words)
  | none => .error .invalidIpv6

/-- How many zeros stand at the front of words. -/
def zeroRun (words : List Nat) : Nat := (words.takeWhile (· = 0)).length

/-- The place and the length of the first longest run of zeros. -/
def longestRun : (place : Nat) → List Nat → Nat × Nat
  | _, [] => (0, 0)
  | place, w :: rest =>
    let here := zeroRun (w :: rest)
    let (later, length) := longestRun (place + 1) rest
    if length ≤ here then (place, here) else (later, length)

/-- Words with colons between them. -/
def wordsText (words : List Nat) : List Char := Text.joined ':' (words.map Text.Hex.natDigits)

/-- The text of an address of eight words; the first longest run of two or more zeros is left
out. -/
def ipv6Text (words : List Nat) : List Char :=
  let (place, length) := longestRun 0 words
  if length < 2 then wordsText words
  else wordsText (words.take place) ++ ':' :: ':' :: wordsText (words.drop (place + length))

/-! ## Names -/

/-- Characters that the host of an unknown scheme may not have. -/
def isForbiddenInName (c : Char) : Bool :=
  c.toNat = 0 || c == '\t' || c == '\n' || c == '\r' || " #/:<>?@[\\]^|".toList.contains c

/-- The domain name that a text stands for, percent signs decoded. -/
def domainName? (s : List Char) : Except Fault (List Char) :=
  match (Text.Utf8.decode? (Percent.decode s)).bind Domain.ascii? with
  | none => .error .invalidDomain
  | some [] => .error .emptyHost
  | some name => .ok name

/-- The address in brackets that a text is, or nothing if it begins with no bracket. -/
def bracketed? (s : List Char) : Option (Except Fault Host) :=
  match s with
  | '[' :: r => some (if r.getLast? = some ']' then ipv6? r.dropLast else .error .invalidIpv6)
  | _ => none

/-- The host of a URL of a known scheme. -/
def ofText (s : List Char) : Except Fault Host :=
  match bracketed? s with
  | some host => host
  | none => do
    let name ← domainName? s
    if endsInNumber name then ipv4? name else return .domain name

/-- The host of a URL of an unknown scheme: any name without the forbidden characters. -/
def ofOpaqueText (s : List Char) : Except Fault Host :=
  match bracketed? s with
  | some host => host
  | none =>
    if s.any isForbiddenInName then .error .invalidDomainCharacter
    else .ok (.domain (Percent.encode Percent.isControl s))

/-- The text of a host. -/
def text : Host → List Char
  | .domain name => name
  | .ipv4 address => ipv4Text address
  | .ipv6 words => '[' :: (ipv6Text words ++ [']'])

end Host

end RemoteDriver.Url
