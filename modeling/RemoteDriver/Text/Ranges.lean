/-!
# Ranges of characters

A property of characters is kept as the ranges of their numbers, in increasing order.  The tables
of this library are those of Unicode 17.
-/

namespace RemoteDriver.Text

/-- Ranges of numbers of characters, both ends included. -/
abbrev Ranges := List (Nat × Nat)

/-- Whether a character lies in one of the ranges. -/
def Ranges.has (ranges : Ranges) (c : Char) : Bool :=
  ranges.any fun (low, high) => low ≤ c.toNat && c.toNat ≤ high

/-- A character lies in ranges exactly if its number is between the ends of one of them. -/
theorem Ranges.has_iff {ranges : Ranges} {c : Char} :
    ranges.has c = true ↔ ∃ r ∈ ranges, r.1 ≤ c.toNat ∧ c.toNat ≤ r.2 := by
  simp [Ranges.has]

end RemoteDriver.Text
