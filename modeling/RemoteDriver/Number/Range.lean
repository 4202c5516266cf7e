/-!
# Powers and ranges

Powers of two and of ten, and the ranges of the whole numbers that 32 and 64 bits hold.
-/

namespace RemoteDriver.Number

/-- A power of two. -/
def twoTo (n : Nat) : Nat := Nat.pow 2 n

/-- A power of ten. -/
def tenTo (n : Nat) : Nat := Nat.pow 10 n

/-- The largest number of 32 bits without a sign. -/
def maxUInt32 : Nat := 0xFFFFFFFF

/-- The largest number of 64 bits without a sign. -/
def maxUInt64 : Nat := 0xFFFFFFFFFFFFFFFF

/-- The smallest number of 32 bits with a sign. -/
def minInt32 : Int := -0x80000000

/-- The largest number of 32 bits with a sign. -/
def maxInt32 : Int := 0x7FFFFFFF

/-- The smallest number of 64 bits with a sign. -/
def minInt64 : Int := -0x8000000000000000

/-- The largest number of 64 bits with a sign. -/
def maxInt64 : Int := 0x7FFFFFFFFFFFFFFF

/-- Whether 32 bits with a sign hold a number. -/
def fitsInt32 (n : Int) : Bool := decide (minInt32 ≤ n) && decide (n ≤ maxInt32)

/-- Whether 64 bits with a sign hold a number. -/
def fitsInt64 (n : Int) : Bool := decide (minInt64 ≤ n) && decide (n ≤ maxInt64)

end RemoteDriver.Number
