/-!
# Hexadecimal text

Bytes as pairs of hexadecimal digits.  Writing uses lower case, reading takes either case and
says where a text is not hexadecimal.
-/

namespace RemoteDriver.Text.Hex

/-- The digit of a number below sixteen, in lower case. -/
def digit (n : Nat) : Char :=
  if n < 10 then Char.ofNat (0x30 + n) else Char.ofNat (0x57 + n)

/-- The number that a hexadecimal digit of either case stands for. -/
def value? (c : Char) : Option Nat :=
  let n := c.toNat
  if 0x30 ≤ n ∧ n ≤ 0x39 then some (n - 0x30)
  else if 0x61 ≤ n ∧ n ≤ 0x66 then some (n - 0x57)
  else if 0x41 ≤ n ∧ n ≤ 0x46 then some (n - 0x37)
  else none

/-- Two digits for each byte. -/
def encode : List UInt8 → List Char
  | [] => []
  | b :: r => digit (b.toNat / 16) :: digit (b.toNat % 16) :: encode r

/-- The digits of a number without leading zeros, at least one. -/
def natDigits (n : Nat) : List Char :=
  if n < 16 then [digit n] else natDigits (n / 16) ++ [digit (n % 16)]
termination_by n
decreasing_by omega

/-- Why a text is not the hexadecimal form of bytes. -/
inductive Fault
  /-- The text has an odd number of bytes. -/
  | oddLength
  /-- The byte of this value at this place is not a digit. -/
  | notADigit (byte : UInt8) (index : Nat)
deriving DecidableEq, Repr

/-- The value of the digit at place `index`, or the fault. -/
def digitAt (b : UInt8) (index : Nat) : Except Fault Nat :=
  match value? (Char.ofNat b.toNat) with
  | some n => .ok n
  | none => .error (.notADigit b index)

/-- Reads pairs of digits from the place `index` on. -/
def decodeFrom : Nat → List UInt8 → Except Fault (List UInt8)
  | _, [] => .ok []
  | _, [_] => .error .oddLength
  | index, a :: b :: r => do
    let hi ← digitAt a index
    let lo ← digitAt b (index + 1)
    let rest ← decodeFrom (index + 2) r
    return UInt8.ofNat (hi * 16 + lo) :: rest

/-- The bytes that a text, given by its UTF-8 bytes, stands for.  An odd length is reported
before any wrong digit. -/
def decode (text : List UInt8) : Except Fault (List UInt8) :=
  if text.length % 2 = 1 then .error .oddLength else decodeFrom 0 text

/-- The digit of a number stands for it. -/
theorem value?_digit {n : Nat} (h : n < 16) : value? (digit n) = some n := by
  have all : ∀ m ∈ List.range 16, value? (digit m) = some m := by decide
  exact all n (List.mem_range.2 h)

end RemoteDriver.Text.Hex
