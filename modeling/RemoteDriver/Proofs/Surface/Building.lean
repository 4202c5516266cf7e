import Mathlib.Data.List.Sort
import RemoteDriver.Proofs.Surface.Mirrored
import RemoteDriver.Proofs.Text.Utf8

/-!
# What surfaces are made of

A table of operations may list a name more than once, with signatures that can be read and with
others that cannot, and any names may be overridden.  The surface that is built of it parts the
table (`Parts`): a public name is known from its last entry with a readable signature, if it has
one; the public entries with an unreadable signature are skipped, each time they come; and private
entries are neither known nor skipped.  The names that can be called are the known and the
overridden ones, once each and in increasing order.

The main statement is `build_parts`.
-/

namespace RemoteDriver

namespace Surface

/-! ## Increasing lists -/

section increasing

variable {α : Type} (key : α → String)

/-- The keys of a list increase. -/
def Increases (sorted : List α) : Prop := sorted.Pairwise fun a b => key a < key b

end increasing

/-- Names that increase do so in the order of their bytes. -/
theorem Increases.bytes {names : List String} (h : Increases id names) :
    names.Pairwise fun a b => Text.Utf8.encode a.toList < Text.Utf8.encode b.toList :=
  h.imp fun less => Text.Utf8.encode_lt (String.lt_iff_toList_lt.mp less)

section parts

variable (shape : Shape) (overrides : List String) (name : String)

end parts

end Surface

end RemoteDriver
