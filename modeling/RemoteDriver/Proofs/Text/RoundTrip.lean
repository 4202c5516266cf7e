import RemoteDriver.Text.Base64
import RemoteDriver.Text.Hex
import RemoteDriver.Text.Utf8

/-!
# Bytes as text and back

The two forms of bytes as text lose nothing: what is written in hexadecimal digits or in base64 is
read as the bytes that it was written from (`Hex.decode_encode`, `Base64.decode_encode`).
-/

namespace RemoteDriver.Text

/-! ## Hexadecimal text -/

namespace Hex

/-- A digit is a single byte, which is read as the number that the digit stands for. -/
theorem utf8_digit {n : Nat} (h : n < 16) (index : Nat) :
    ∃ b, String.utf8EncodeChar (digit n) = [b] ∧ digitAt b index = .ok n := by
  have single : ∀ m ∈ List.range 16,
      String.utf8EncodeChar (digit m) = [UInt8.ofNat (digit m).toNat] := by decide
  have valued : ∀ m ∈ List.range 16,
      value? (Char.ofNat (UInt8.ofNat (digit m).toNat).toNat) = some m := by decide
  refine ⟨_, single n (List.mem_range.2 h), ?_⟩
  rw [digitAt, valued n (List.mem_range.2 h)]

/-- Two digits are two bytes. -/
theorem length_utf8_encode (bytes : List UInt8) :
    (Utf8.encode (encode bytes)).length = 2 * bytes.length := by
  induction bytes with
  | nil => rfl
  | cons b rest ih =>
    have small : b.toNat < 256 := b.toNat_lt
    obtain ⟨hi, hh, _⟩ := utf8_digit (show b.toNat / 16 < 16 by omega) 0
    obtain ⟨lo, hl, _⟩ := utf8_digit (show b.toNat % 16 < 16 by omega) 0
    simp only [Utf8.encode] at ih
    simp only [encode, Utf8.encode, List.flatMap_cons, hh, hl, List.length_append, ih,
      List.length_cons, List.length_nil]
    omega

/-- Digits are read as the bytes they stand for, from any place on. -/
theorem decodeFrom_encode (index : Nat) (bytes : List UInt8) :
    decodeFrom index (Utf8.encode (encode bytes)) = .ok bytes := by
  induction bytes generalizing index with
  | nil => rfl
  | cons b rest ih =>
    have small : b.toNat < 256 := b.toNat_lt
    obtain ⟨hi, hh, high⟩ := utf8_digit (show b.toNat / 16 < 16 by omega) index
    obtain ⟨lo, hl, low⟩ := utf8_digit (show b.toNat % 16 < 16 by omega) (index + 1)
    have whole : UInt8.ofNat (b.toNat / 16 * 16 + b.toNat % 16) = b := by
      rw [show b.toNat / 16 * 16 + b.toNat % 16 = b.toNat by omega, UInt8.ofNat_toNat]
    simp only [Utf8.encode] at ih
    simp only [encode, Utf8.encode, List.flatMap_cons, hh, hl, List.singleton_append, decodeFrom,
      high, low, ih, bind, Except.bind, pure, Except.pure, whole]

/-- Bytes are read from their hexadecimal text. -/
theorem decode_encode (bytes : List UInt8) : decode (Utf8.encode (encode bytes)) = .ok bytes := by
  rw [decode, length_utf8_encode, if_neg (by omega), decodeFrom_encode]

end Hex

/-! ## Base64 -/

namespace Base64

/-- A full group of four characters is read as three bytes. -/
theorem decode_group {w x y z : Nat} (hw : w < 64) (hx : x < 64) (hy : y < 64) (hz : z < 64)
    (rest : List Char) :
    decode (digit w :: digit x :: digit y :: digit z :: rest)
      = (decode rest).map fun bytes =>
          let n := ((w * 64 + x) * 64 + y) * 64 + z
          UInt8.ofNat (n / 65536) :: UInt8.ofNat (n / 256 % 256) :: UInt8.ofNat (n % 256)
            :: bytes := by
  rw [decode.eq_4]
  · rw [value?_digit hw, value?_digit hx, value?_digit hy, value?_digit hz]
    cases decode rest <;> rfl
  · intro _ no _
    exact digit_ne_pad hz no
  · intro no _
    exact digit_ne_pad hz no

/-- A last group of one byte. -/
theorem decode_encode_one (a : UInt8) : decode (encode [a]) = some [a] := by
  have small : a.toNat < 256 := a.toNat_lt
  have whole : UInt8.ofNat (a.toNat / 4 * 4 + a.toNat % 4 * 16 / 16) = a := by
    rw [show a.toNat / 4 * 4 + a.toNat % 4 * 16 / 16 = a.toNat by omega, UInt8.ofNat_toNat]
  rw [encode, decode, value?_digit (by omega), value?_digit (by omega)]
  dsimp only [bind, Option.bind]
  rw [if_pos (by omega), whole]

/-- A last group of two bytes. -/
theorem decode_encode_two (a b : UInt8) : decode (encode [a, b]) = some [a, b] := by
  have ha : a.toNat < 256 := a.toNat_lt
  have hb : b.toNat < 256 := b.toNat_lt
  have last : (a.toNat * 256 + b.toNat) % 16 * 4 < 64 := by omega
  have whole : ((a.toNat * 256 + b.toNat) / 1024 * 64 + (a.toNat * 256 + b.toNat) / 16 % 64) * 16
      + (a.toNat * 256 + b.toNat) % 16 * 4 / 4 = a.toNat * 256 + b.toNat := by omega
  have first : UInt8.ofNat ((a.toNat * 256 + b.toNat) / 256) = a := by
    rw [show (a.toNat * 256 + b.toNat) / 256 = a.toNat by omega, UInt8.ofNat_toNat]
  have second : UInt8.ofNat ((a.toNat * 256 + b.toNat) % 256) = b := by
    rw [show (a.toNat * 256 + b.toNat) % 256 = b.toNat by omega, UInt8.ofNat_toNat]
  rw [encode, decode.eq_3]
  · rw [value?_digit (by omega), value?_digit (by omega), value?_digit last]
    dsimp only [bind, Option.bind]
    rw [if_pos (by omega), whole, first, second]
  · intro no
    exact digit_ne_pad last no

/-- A full group stands for its three bytes. -/
theorem decode_encode_three (a b c : UInt8) (rest : List UInt8)
    (ih : decode (encode rest) = some rest) :
    decode (encode (a :: b :: c :: rest)) = some (a :: b :: c :: rest) := by
  have ha : a.toNat < 256 := a.toNat_lt
  have hb : b.toNat < 256 := b.toNat_lt
  have hc : c.toNat < 256 := c.toNat_lt
  rw [encode]
  generalize hn : (a.toNat * 256 + b.toNat) * 256 + c.toNat = n
  have whole : ((n / 262144 * 64 + n / 4096 % 64) * 64 + n / 64 % 64) * 64 + n % 64 = n := by omega
  have first : UInt8.ofNat (n / 65536) = a := by
    rw [show n / 65536 = a.toNat by omega, UInt8.ofNat_toNat]
  have second : UInt8.ofNat (n / 256 % 256) = b := by
    rw [show n / 256 % 256 = b.toNat by omega, UInt8.ofNat_toNat]
  have third : UInt8.ofNat (n % 256) = c := by
    rw [show n % 256 = c.toNat by omega, UInt8.ofNat_toNat]
  rw [decode_group (by omega) (by omega) (by omega) (by omega), ih, whole]
  dsimp only [Option.map]
  rw [first, second, third]

/-- Bytes are read from their base64 form. -/
theorem decode_encode (bytes : List UInt8) : decode (encode bytes) = some bytes := by
  fun_induction encode bytes with
  | case1 => rfl
  | case2 a => exact decode_encode_one a
  | case3 a b => exact decode_encode_two a b
  | case4 a b c rest n ih => exact decode_encode_three a b c rest ih

end Base64

end RemoteDriver.Text
