import Mathlib.Data.String.Basic
import RemoteDriver.Text.Utf8

/-!
# The order of texts and of their bytes

Texts are compared character by character, and their bytes in UTF-8 byte by byte.  Both come to the
same, since the digits of a character stand in its bytes from the highest place on, and since a
character of more bytes begins with a greater one (`encode_lt`).
-/

namespace RemoteDriver.Text.Utf8

/-- Of two numbers the smaller one has the smaller digit at the first place where they differ. -/
theorem places_lt {m n : Nat} (less : m < n) :
    m / 262144 < n / 262144 ∨ m / 262144 = n / 262144 ∧ (m / 4096 % 64 < n / 4096 % 64
      ∨ m / 4096 % 64 = n / 4096 % 64 ∧ (m / 64 % 64 < n / 64 % 64
        ∨ m / 64 % 64 = n / 64 % 64 ∧ m % 64 < n % 64)) := by
  omega

/-- Characters end with the seventeenth plane. -/
theorem toNat_lt_bound (c : Char) : c.val.toNat < 0x110000 := by
  have valid := c.valid
  unfold UInt32.isValidChar Nat.isValidChar at valid
  omega

/-- The bytes of a smaller character are less, whatever follows them. -/
theorem encodeChar_lt {c d : Char} (less : c < d) (s t : List UInt8) :
    String.utf8EncodeChar c ++ s < String.utf8EncodeChar d ++ t := by
  have less : c.val.toNat < d.val.toNat := less
  have places := places_lt less
  have bound := toNat_lt_bound d
  -- One case for each pair of lengths.  Where they differ, the first bytes do.
  unfold String.utf8EncodeChar
  dsimp only
  (repeat' split) <;>
    simp (disch := omega) only [List.cons_append, List.nil_append, List.cons_lt_cons_iff,
      UInt8.lt_iff_toNat_lt, ← UInt8.toNat_inj, UInt8.toNat_ofNat', Nat.mod_eq_of_lt] <;>
    omega

/-- A text is encoded character by character. -/
theorem encode_cons (c : Char) (s : List Char) :
    encode (c :: s) = String.utf8EncodeChar c ++ encode s := List.flatMap_cons

/-- The bytes of a smaller text are less. -/
theorem encode_lt {s t : List Char} (less : s < t) : encode s < encode t := by
  induction s generalizing t with
  | nil =>
    cases t with
    | nil => exact absurd less (List.lt_irrefl [])
    | cons d t =>
      have bytes : encode (d :: t) ≠ [] := by
        rw [encode_cons]
        exact List.append_ne_nil_of_left_ne_nil String.utf8EncodeChar_ne_nil _
      obtain ⟨b, rest, same⟩ := List.exists_cons_of_ne_nil bytes
      rw [same]
      exact List.nil_lt_cons b rest
  | cons c s ih =>
    cases t with
    | nil => exact absurd less (List.not_lt_nil _)
    | cons d t =>
      rw [encode_cons, encode_cons]
      rcases List.cons_lt_cons_iff.mp less with first | ⟨rfl, rest⟩
      · exact encodeChar_lt first _ _
      · exact List.append_left_lt (ih rest)

end RemoteDriver.Text.Utf8
