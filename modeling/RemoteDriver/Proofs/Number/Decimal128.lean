import Mathlib.Data.List.TakeDrop
import Mathlib.Data.List.TakeWhile
import RemoteDriver.Number.Decimal128
import RemoteDriver.Proofs.Number.Digits

/-!
# Decimal numbers as text and back

A decimal number that a text stands for has at most thirty-four digits and an exponent of its range
(`fits_of_ofText?`), and then its own text stands for it again (`ofText?_text`).  What is no number
is the exception: it has one text, which stands for the datum without a sign and without a mark.
-/

namespace RemoteDriver.Decimal128

open Number (isDigit digits? digitsFrom natWithin? intWithin? signed tenTo)

/-! ## What texts stand for -/

/-- Whether a decimal has the digits and the exponent that there is room for. -/
def Fits : Decimal128 → Prop
  | .finite _ coefficient exponent =>
    coefficient < tenTo maxDigits ∧ minExponent ≤ exponent ∧ exponent ≤ maxExponent
  | _ => True

/-- The datum that the text of a decimal stands for. -/
def quiet : Decimal128 → Decimal128
  | .nan _ _ => .nan false false
  | d => d

/-- A text in two parts: the digits with their point, and the exponent. -/
def parts? (s : List Char) : Option (List Char × Int) :=
  match s.span (· ≠ 'e') with
  | (mantissa, 'e' :: text) =>
    (intWithin? (-32768) 32767 text).map fun exponent => (mantissa, exponent)
  | (mantissa, _) => some (mantissa, 0)

/-- The decimal of the two parts of a text, brought into its bounds. -/
def fitted? (negative : Bool) (mantissa : List Char) (exponent : Int) : Option Decimal128 := do
  let (digits, fraction) := coefficientOf mantissa
  guard (-32768 ≤ exponent - fraction)
  let (digits, exponent) ← fitDigits (significant digits) (exponent - fraction)
  guard (exponent ≤ 32767)
  let (digits, exponent) ← fitLow digits exponent
  let (digits, exponent) ← fitHigh digits exponent
  let coefficient ← natWithin? (Number.twoTo 128 - 1) digits
  return .finite negative coefficient exponent

/-- Reading takes a text apart and fits its parts. -/
theorem ofUnsigned?_eq (negative : Bool) (s : List Char) :
    ofUnsigned? negative s = (parts? s).bind fun (mantissa, exponent) =>
      fitted? negative mantissa exponent := by
  rcases hs : s.span (· ≠ 'e') with ⟨mantissa, _ | ⟨c, text⟩⟩
  · unfold ofUnsigned? parts?
    rw [hs]
    rfl
  by_cases h : c = 'e'
  · subst h
    unfold ofUnsigned? parts?
    rw [hs]
    rfl
  have plain (text' : List Char) : c :: text ≠ 'e' :: text' := fun same => h (List.cons.inj same).1
  have whole : parts? s = some (mantissa, 0) := by
    unfold parts?
    rw [hs]
    split
    · next same => exact absurd (Prod.mk.inj same).2 (plain _)
    · next same =>
      cases same
      rfl
  rw [whole]
  unfold ofUnsigned?
  extract_lets fit
  rw [hs]
  split
  · next same => exact absurd (Prod.mk.inj same).2 (plain _)
  · next same =>
    cases same
    rfl

/-- What is fitted has at most thirty-four digits. -/
theorem length_fitDigits {s t : List Char} {e f : Int} (h : fitDigits s e = some (t, f)) :
    t.length ≤ maxDigits := by
  unfold fitDigits at h
  dsimp only at h
  split at h
  · cases h
    rw [List.length_take]
    exact Nat.min_le_left _ _
  · cases h

/-- What is fitted from below has no exponent beneath the least, and no more digits than there is
room for. -/
theorem fitLow_spec {s t : List Char} {e f : Int} (h : fitLow s e = some (t, f))
    (short : s.length ≤ maxDigits) : t.length ≤ maxDigits ∧ minExponent ≤ f := by
  unfold fitLow at h
  split at h
  · next low =>
    cases h
    exact ⟨short, low⟩
  split at h
  · cases h
    exact ⟨short, Int.le_refl _⟩
  dsimp only at h
  split at h
  · cases h
    rw [List.length_take]
    exact ⟨Nat.le_trans (Nat.min_le_right _ _) short, Int.le_refl _⟩
  · cases h

/-- What is fitted from above has its exponent in bounds, and no more digits than there is room
for. -/
theorem fitHigh_spec {s t : List Char} {e f : Int} (h : fitHigh s e = some (t, f))
    (short : s.length ≤ maxDigits) (low : minExponent ≤ e) :
    t.length ≤ maxDigits ∧ minExponent ≤ f ∧ f ≤ maxExponent := by
  unfold fitHigh at h
  split at h
  · next high =>
    cases h
    exact ⟨short, low, high⟩
  split at h
  · cases h
    exact ⟨short, by decide, Int.le_refl _⟩
  dsimp only at h
  split at h
  · next room =>
    cases h
    refine ⟨?_, by decide, Int.le_refl _⟩
    rw [List.length_append, List.length_replicate]
    exact room
  · cases h

/-- A number of so many characters lies below that power of ten. -/
theorem lt_of_natWithin? {high n : Nat} {s : List Char} (h : natWithin? high s = some n) :
    n < tenTo s.length := by
  have length : (signed s).2.length ≤ s.length := by
    unfold signed
    split <;> simp
  unfold natWithin? at h
  split at h
  · cases h
  split at h
  · next m hm =>
    split at h
    · cases h
      unfold digits? at hm
      split at hm
      · next digits =>
        cases hm
        have below := Number.digitsFrom_lt digits.2 0
        rw [Nat.zero_add, Nat.one_mul] at below
        exact Nat.lt_of_lt_of_le below (Number.tenTo_le length)
      · cases hm
    · cases h
  · cases h

/-- What is fitted fits. -/
theorem fits_of_fitted? {negative : Bool} {mantissa : List Char} {exponent : Int} {d : Decimal128}
    (h : fitted? negative mantissa exponent = some d) : d.Fits := by
  unfold fitted? at h
  obtain ⟨_, _, h⟩ := Option.bind_eq_some_iff.mp h
  obtain ⟨⟨digits, e⟩, fit, h⟩ := Option.bind_eq_some_iff.mp h
  obtain ⟨_, _, h⟩ := Option.bind_eq_some_iff.mp h
  obtain ⟨⟨digits', e'⟩, low, h⟩ := Option.bind_eq_some_iff.mp h
  obtain ⟨⟨digits'', e''⟩, high, h⟩ := Option.bind_eq_some_iff.mp h
  obtain ⟨c, number, h⟩ := Option.bind_eq_some_iff.mp h
  cases h
  have short := length_fitDigits fit
  obtain ⟨short', bounded⟩ := fitLow_spec low short
  obtain ⟨short'', bounds⟩ := fitHigh_spec high short' bounded
  refine ⟨?_, bounds⟩
  exact Nat.lt_of_lt_of_le (lt_of_natWithin? number) (Number.tenTo_le short'')

/-- A text stands for a decimal that there is room for. -/
theorem fits_of_ofText? {s : List Char} {d : Decimal128} (h : ofText? s = some d) : d.Fits := by
  unfold ofText? at h
  dsimp only at h
  split at h
  · cases h
    trivial
  split at h
  · cases h
    trivial
  split at h
  · cases h
    trivial
  · rw [ofUnsigned?_eq] at h
    obtain ⟨_, _, h⟩ := Option.bind_eq_some_iff.mp h
    exact fits_of_fitted? h

/-! ## Fitting what fits -/

/-- The digits of a number are its decimal digits. -/
theorem digitsOf_eq (n : Nat) : digitsOf n = Nat.toDigits 10 n := Nat.toList_repr

/-- A coefficient that there is room for has few digits. -/
theorem length_digitsOf {n : Nat} (h : n < tenTo maxDigits) : (digitsOf n).length ≤ maxDigits := by
  rw [digitsOf_eq]
  exact (Nat.length_toDigits_le_iff (by decide) (by decide)).mpr h

/-- The digits of a number are digits. -/
theorem all_isDigit_digitsOf (n : Nat) : ∀ c ∈ digitsOf n, isDigit c = true := by
  rw [digitsOf_eq]
  exact List.all_eq_true.mp (Number.all_isDigit_toDigits n)

/-- Every number has a digit. -/
theorem digitsOf_ne_nil (n : Nat) : digitsOf n ≠ [] := by
  rw [digitsOf_eq]
  exact Nat.toDigits_ne_nil

/-- A written coefficient is read as itself. -/
theorem natWithin?_digitsOf {high n : Nat} (h : n ≤ high) :
    natWithin? high (digitsOf n) = some n := by
  have unsigned := Number.signed_of_all (Number.all_isDigit_toDigits n)
  rw [digitsOf_eq]
  unfold natWithin?
  split
  · next r same =>
    rw [same] at unsigned
    cases (Prod.mk.inj unsigned).1
  · rw [unsigned, Number.digits?_toDigits]
    exact if_pos h

/-- A written number but zero does not begin with a zero. -/
theorem dropWhile_zeros_toDigits {n : Nat} (h : n ≠ 0) :
    (Nat.toDigits 10 n).dropWhile (· == '0') = Nat.toDigits 10 n := by
  induction n using Nat.strongRecOn with
  | _ n ih =>
    by_cases small : n < 10
    · rw [Nat.toDigits_of_lt_base small]
      have first : (Nat.digitChar n == '0') = false := by
        have all : ∀ m ∈ List.range 10, m ≠ 0 → (Nat.digitChar m == '0') = false := by decide
        exact all n (List.mem_range.mpr small) h
      rw [List.dropWhile_cons, first]
      rfl
    · have front := ih (n / 10) (by omega) (by omega)
      rw [Nat.toDigits_of_base_le (by decide) (by omega)]
      cases hd : Nat.toDigits 10 (n / 10) with
      | nil => exact absurd hd Nat.toDigits_ne_nil
      | cons c r =>
        rw [hd] at front
        have first : (c == '0') = false := by
          cases hc : c == '0' with
          | false => rfl
          | true =>
            rw [List.dropWhile_cons, hc, if_pos rfl] at front
            have shorter := (List.dropWhile_suffix (l := r) (· == '0')).length_le
            rw [front, List.length_cons] at shorter
            omega
        rw [List.cons_append, List.dropWhile_cons, first]
        rfl

/-- A written number has no zeros at its front that do not count. -/
theorem significant_digitsOf (n : Nat) : significant (digitsOf n) = digitsOf n := by
  rw [digitsOf_eq]
  by_cases h : n = 0
  · subst h
    rfl
  · unfold significant
    rw [dropWhile_zeros_toDigits h]
    split
    · next none => exact absurd none Nat.toDigits_ne_nil
    · rfl

/-- Zeros at the front do not count. -/
theorem significant_zeros (k : Nat) (s : List Char) :
    significant (List.replicate k '0' ++ s) = significant s := by
  have zeros : ∀ c ∈ List.replicate k '0', (c == '0') = true := by
    intro c hc
    rw [List.eq_of_mem_replicate hc]
    rfl
  rw [significant, List.dropWhile_append_of_pos zeros, significant]

/-- A mantissa whose digits are those of a coefficient is fitted as it stands. -/
theorem fitted?_of_significant {negative : Bool} {mantissa digits : List Char} {places c : Nat}
    {exponent e : Int} (coefficient : coefficientOf mantissa = (digits, places))
    (same : significant digits = digitsOf c) (exact : exponent - places = e)
    (fits : (finite negative c e).Fits) :
    fitted? negative mantissa exponent = some (.finite negative c e) := by
  obtain ⟨short, low, high⟩ := fits
  have length := length_digitsOf short
  have fit : fitDigits (digitsOf c) e = some (digitsOf c, e) := by
    unfold fitDigits
    rw [List.drop_eq_nil_of_le length, List.take_of_length_le length,
      Nat.sub_eq_zero_of_le length]
    simp [allZeros]
  have number : natWithin? (Number.twoTo 128 - 1) (digitsOf c) = some c := by
    refine natWithin?_digitsOf (Nat.le_of_lt (Nat.lt_of_lt_of_le short ?_))
    decide
  have raised : fitLow (digitsOf c) e = some (digitsOf c, e) := if_pos low
  have lowered : fitHigh (digitsOf c) e = some (digitsOf c, e) := if_pos high
  rw [minExponent] at low
  rw [maxExponent] at high
  have above : (guard (-32768 ≤ e) : Option Unit) = some () := if_pos (by omega)
  have below : (guard (e ≤ 32767) : Option Unit) = some () := if_pos (by omega)
  unfold fitted?
  rw [coefficient]
  dsimp only
  rw [same, exact, above, fit]
  dsimp only [bind, pure, Option.bind]
  rw [below, raised]
  dsimp only
  rw [lowered]
  dsimp only
  rw [number]

/-! ## Taking texts apart -/

/-- A character of a text before and after its exponent sign. -/
def IsPlain (c : Char) : Prop := isDigit c = true ∨ c = '.' ∨ c = '+' ∨ c = '-'

/-- A digit has no other case. -/
theorem toLower_of_isDigit {c : Char} (h : isDigit c = true) : c.toLower = c := by
  have digit : 0x30 ≤ c.toNat ∧ c.toNat ≤ 0x39 := by
    unfold Number.isDigit Number.digitValue? at h
    dsimp only at h
    split at h
    · next digit => exact digit
    · cases h
  unfold Char.toLower
  rw [dif_neg]
  rintro ⟨low, _⟩
  have : 0x41 ≤ c.toNat := low
  omega

/-- A character outside the exponent sign has no other case. -/
theorem IsPlain.toLower {c : Char} (h : IsPlain c) : c.toLower = c := by
  rcases h with h | rfl | rfl | rfl
  · exact toLower_of_isDigit h
  · rfl
  · rfl
  · rfl

/-- A character before or after the exponent sign is not that sign. -/
theorem IsPlain.ne_e {c : Char} (h : IsPlain c) : c ≠ 'e' := by
  rcases h with h | rfl | rfl | rfl
  · exact Number.ne_of_isDigit h (by decide)
  · decide
  · decide
  · decide

/-- Plain characters are in lower case. -/
theorem lowered_of_plain {s : List Char} (h : ∀ c ∈ s, IsPlain c) : Double.lowered s = s := by
  unfold Double.lowered
  rw [List.map_congr_left fun c hc => (h c hc).toLower, List.map_id']

/-- A text whose characters all satisfy the condition is taken as a whole. -/
theorem span_of_all {p : Char → Bool} {s : List Char} (h : ∀ c ∈ s, p c = true) :
    s.span p = (s, []) := by
  rw [List.span_eq_takeWhile_dropWhile, List.takeWhile_eq_self_iff.mpr h,
    List.dropWhile_eq_nil_iff.mpr h]

/-- A text is taken up to the first character that does not satisfy the condition. -/
theorem span_of_stop {p : Char → Bool} {s : List Char} {c : Char} (h : ∀ c ∈ s, p c = true)
    (stop : p c = false) (rest : List Char) : (s ++ c :: rest).span p = (s, c :: rest) := by
  rw [List.span_eq_takeWhile_dropWhile, List.takeWhile_append_of_pos h,
    List.dropWhile_append_of_pos h, List.takeWhile_cons_of_neg (by simp [stop]),
    List.dropWhile_cons_of_neg (by simp [stop]), List.append_nil]

/-- A text without an exponent sign is all mantissa. -/
theorem parts?_of_plain {s : List Char} (h : ∀ c ∈ s, IsPlain c) : parts? s = some (s, 0) := by
  rw [parts?, span_of_all fun c hc => decide_eq_true (h c hc).ne_e]

/-- A text with an exponent sign is taken apart there. -/
theorem parts?_exponent {s text : List Char} {e : Int} (h : ∀ c ∈ s, IsPlain c)
    (number : intWithin? (-32768) 32767 text = some e) :
    parts? (s ++ 'e' :: text) = some (s, e) := by
  rw [parts?, span_of_stop (fun c hc => decide_eq_true (h c hc).ne_e) (by decide)]
  simp only [number, Option.map_some]

/-- Digits without a point. -/
theorem coefficientOf_digits {s : List Char} (h : ∀ c ∈ s, isDigit c = true) :
    coefficientOf s = (s, 0) := by
  rw [coefficientOf,
    span_of_all fun c hc => decide_eq_true (Number.ne_of_isDigit (h c hc) (by decide))]

/-- Digits with a point among them. -/
theorem coefficientOf_pointed {whole : List Char} (h : ∀ c ∈ whole, isDigit c = true)
    (fraction : List Char) :
    coefficientOf (whole ++ '.' :: fraction) = (whole ++ fraction, fraction.length) := by
  rw [coefficientOf,
    span_of_stop (fun c hc => decide_eq_true (Number.ne_of_isDigit (h c hc) (by decide)))
      (by decide)]
  rfl

/-- A text that begins with a digit, after its sign if it has one, is no name. -/
theorem ofText?_of_digit {negative : Bool} {c : Char} {r : List Char} (h : isDigit c = true) :
    ofText? ((if negative then ['-'] else []) ++ c :: r)
      = ofUnsigned? negative (Double.lowered (c :: r)) := by
  have sign : signed ((if negative then ['-'] else []) ++ c :: r) = (negative, c :: r) := by
    cases negative with
    | true => rfl
    | false =>
      simp only [Bool.false_eq_true, if_false, List.nil_append]
      unfold signed
      split
      · next same => exact absurd (List.cons.inj same).1 (Number.ne_of_isDigit h (by decide))
      · next same => exact absurd (List.cons.inj same).1 (Number.ne_of_isDigit h (by decide))
      · rfl
  have unnamed (d : Char) (rest : List Char) (letter : isDigit d = false) :
      String.ofList (Double.lowered (c :: r)) ≠ String.ofList (d :: rest) := by
    intro same
    rw [String.ofList_inj, Double.lowered, List.map_cons, toLower_of_isDigit h] at same
    exact Number.ne_of_isDigit h letter (List.cons.inj same).1
  have notNan := unnamed 'n' ['a', 'n'] (by decide)
  have notSnan := unnamed 's' ['n', 'a', 'n'] (by decide)
  have notInf := unnamed 'i' ['n', 'f'] (by decide)
  have notInfinity := unnamed 'i' ['n', 'f', 'i', 'n', 'i', 't', 'y'] (by decide)
  unfold ofText?
  rw [sign]
  dsimp only
  rw [if_neg notNan, if_neg notSnan, if_neg (not_or.mpr ⟨notInf, notInfinity⟩)]

/-! ## Written decimals -/

section written

variable {negative : Bool} {c : Nat} {e : Int}

/-- Digits have no exponent sign among them. -/
theorem isPlain_digits {s : List Char} (h : ∀ d ∈ s, isDigit d = true) : ∀ d ∈ s, IsPlain d :=
  fun d hd => .inl (h d hd)

/-- Digits with a point have no exponent sign among them. -/
theorem isPlain_pointed {whole fraction : List Char} (hw : ∀ d ∈ whole, isDigit d = true)
    (hf : ∀ d ∈ fraction, isDigit d = true) : ∀ d ∈ whole ++ '.' :: fraction, IsPlain d := by
  intro d hd
  rcases List.mem_append.mp hd with hd | hd
  · exact .inl (hw d hd)
  rcases List.mem_cons.mp hd with rfl | hd
  · exact .inr (.inl rfl)
  · exact .inl (hf d hd)

/-- Digits without point and exponent stand for a whole number. -/
theorem ofUnsigned?_digits (fits : (finite negative c 0).Fits) :
    ofUnsigned? negative (Double.lowered (digitsOf c)) = some (.finite negative c 0) := by
  have plain := isPlain_digits (all_isDigit_digitsOf c)
  rw [lowered_of_plain plain, ofUnsigned?_eq, parts?_of_plain plain, Option.bind_some]
  exact fitted?_of_significant (coefficientOf_digits (all_isDigit_digitsOf c))
    (significant_digitsOf c) (by simp) fits

/-- Digits with a point and without an exponent. -/
theorem ofUnsigned?_pointed (whole fraction : List Char) (hw : ∀ d ∈ whole, isDigit d = true)
    (hf : ∀ d ∈ fraction, isDigit d = true) (same : significant (whole ++ fraction) = digitsOf c)
    (places : (fraction.length : Int) = -e) (fits : (finite negative c e).Fits) :
    ofUnsigned? negative (Double.lowered (whole ++ '.' :: fraction))
      = some (.finite negative c e) := by
  have plain := isPlain_pointed hw hf
  rw [lowered_of_plain plain, ofUnsigned?_eq, parts?_of_plain plain, Option.bind_some]
  exact fitted?_of_significant (coefficientOf_pointed hw fraction) same (by omega) fits

/-- The sign and the digits of an exponent are read as that exponent. -/
theorem intWithin?_exponent {low high n : Int} (above : low ≤ n) (below : n ≤ high) :
    intWithin? low high
      ((if 0 < n then ['+'] else if n < 0 then ['-'] else []) ++ digitsOf n.natAbs) = some n := by
  have unsigned := Number.signed_of_all (Number.all_isDigit_toDigits n.natAbs)
  rw [digitsOf_eq]
  unfold intWithin?
  by_cases positive : 0 < n
  · simp only [if_pos positive, List.singleton_append, signed, Number.digits?_toDigits,
      Bool.false_eq_true, if_false]
    rw [if_pos (by omega)]
    exact congrArg some (by omega)
  · by_cases negative : n < 0
    · simp only [if_neg positive, if_pos negative, List.singleton_append, signed,
        Number.digits?_toDigits, if_true]
      rw [if_pos (by omega)]
      exact congrArg some (by omega)
    · simp only [if_neg positive, if_neg negative, List.nil_append, unsigned,
        Number.digits?_toDigits, Bool.false_eq_true, if_false]
      rw [if_pos (by omega)]
      exact congrArg some (by omega)

/-- Every character of an exponent is plain. -/
theorem isPlain_exponent (n : Int) :
    ∀ d ∈ (if 0 < n then ['+'] else if n < 0 then ['-'] else []) ++ digitsOf n.natAbs,
      IsPlain d := by
  intro d hd
  rcases List.mem_append.mp hd with hd | hd
  · split at hd
    · exact .inr (.inr (.inl (List.mem_singleton.mp hd)))
    · split at hd
      · exact .inr (.inr (.inr (List.mem_singleton.mp hd)))
      · cases hd
  · exact .inl (all_isDigit_digitsOf _ d hd)

/-- A mantissa with an exponent. -/
theorem ofUnsigned?_scientific {mantissa digits : List Char} {places : Nat} {n : Int}
    (plain : ∀ d ∈ mantissa, IsPlain d) (coefficient : coefficientOf mantissa = (digits, places))
    (same : significant digits = digitsOf c) (exact : n - places = e)
    (above : -32768 ≤ n) (below : n ≤ 32767) (fits : (finite negative c e).Fits) :
    ofUnsigned? negative (Double.lowered (mantissa ++ 'E' ::
        ((if 0 < n then ['+'] else if n < 0 then ['-'] else []) ++ digitsOf n.natAbs)))
      = some (.finite negative c e) := by
  have lower : Double.lowered (mantissa ++ 'E' ::
      ((if 0 < n then ['+'] else if n < 0 then ['-'] else []) ++ digitsOf n.natAbs))
      = mantissa ++ 'e' ::
        ((if 0 < n then ['+'] else if n < 0 then ['-'] else []) ++ digitsOf n.natAbs) := by
    have head := lowered_of_plain plain
    have last := lowered_of_plain (isPlain_exponent n)
    unfold Double.lowered at head last ⊢
    rw [List.map_append, List.map_cons, head, last]
    rfl
  rw [lower, ofUnsigned?_eq, parts?_exponent plain (intWithin?_exponent above below),
    Option.bind_some]
  exact fitted?_of_significant coefficient same exact fits

/-- A decimal with few zeros is written with its digits only. -/
theorem ofUnsigned?_plainText (fits : (finite negative c e).Fits) (whole : e ≤ 0)
    (few : -6 ≤ e + (digitsOf c).length - 1) :
    (∃ d r, finiteText c e = d :: r ∧ isDigit d = true)
      ∧ ofUnsigned? negative (Double.lowered (finiteText c e)) = some (.finite negative c e) := by
  have digits := all_isDigit_digitsOf c
  have some := digitsOf_ne_nil c
  have same := significant_digitsOf c
  unfold finiteText
  dsimp only
  rw [if_pos ⟨whole, few⟩]
  -- no point is needed, or it stands before all digits, or among them
  split
  · next none =>
    have exponentless : e = 0 := by omega
    subst exponentless
    refine ⟨?_, ofUnsigned?_digits fits⟩
    cases hd : digitsOf c with
    | nil => exact absurd hd some
    | cons d r => exact ⟨d, r, rfl, digits d (hd ▸ List.mem_cons_self ..)⟩
  split
  · next outside =>
    refine ⟨⟨'0', _, rfl, by decide⟩, ?_⟩
    refine ofUnsigned?_pointed ['0'] _ ?_ ?_ ?_ ?_ fits
    · intro d hd
      rw [List.mem_singleton.mp hd]
      decide
    · intro d hd
      rcases List.mem_append.mp hd with hd | hd
      · rw [List.eq_of_mem_replicate hd]
        decide
      · exact digits d hd
    · rw [← List.append_assoc]
      exact (significant_zeros (_ + 1) _).trans same
    · rw [List.length_append, List.length_replicate]
      omega
  · next inside =>
    refine ⟨?_, ofUnsigned?_pointed _ _ ?_ ?_ ?_ ?_ fits⟩
    · cases hd : digitsOf c with
      | nil => exact absurd hd some
      | cons d r =>
        have first : (digitsOf c).length - (-e).toNat
            = (digitsOf c).length - (-e).toNat - 1 + 1 := by omega
        rw [← hd, first, hd, List.take_succ_cons]
        exact ⟨d, _, rfl, digits d (hd ▸ List.mem_cons_self ..)⟩
    · exact fun d hd => digits d (List.mem_of_mem_take hd)
    · exact fun d hd => digits d (List.mem_of_mem_drop hd)
    · rw [List.take_append_drop, same]
    · rw [List.length_drop]
      omega

/-- Any other decimal is written with an exponent, and with a point after its first digit if it has
more than one. -/
theorem ofUnsigned?_exponentText (fits : (finite negative c e).Fits)
    (other : ¬ (e ≤ 0 ∧ -6 ≤ e + (digitsOf c).length - 1)) :
    (∃ d r, finiteText c e = d :: r ∧ isDigit d = true)
      ∧ ofUnsigned? negative (Double.lowered (finiteText c e)) = some (.finite negative c e) := by
  have digits := all_isDigit_digitsOf c
  have same := significant_digitsOf c
  have short := length_digitsOf fits.1
  have low := fits.2.1
  have high := fits.2.2
  rw [maxDigits] at short
  rw [minExponent] at low
  rw [maxExponent] at high
  unfold finiteText
  dsimp only
  rw [if_neg other]
  cases hd : digitsOf c with
  | nil => exact absurd hd (digitsOf_ne_nil c)
  | cons d r =>
    rw [hd] at digits same short
    have digit := digits d (List.mem_cons_self ..)
    cases r with
    | nil =>
      refine ⟨⟨d, _, rfl, digit⟩, ofUnsigned?_scientific (isPlain_digits digits)
        (coefficientOf_digits digits) (same.trans hd.symm) ?_ ?_ ?_ fits⟩
      all_goals
        simp only [List.length_singleton] at short ⊢
        omega
    | cons d' r =>
      have rest : ∀ x ∈ d' :: r, isDigit x = true := fun x hx =>
        digits x (List.mem_cons_of_mem d hx)
      have alone : ∀ x ∈ [d], isDigit x = true := by
        intro x hx
        rw [List.mem_singleton.mp hx]
        exact digit
      refine ⟨⟨d, _, rfl, digit⟩, ofUnsigned?_scientific (isPlain_pointed alone rest)
        (coefficientOf_pointed alone _) (same.trans hd.symm) ?_ ?_ ?_ fits⟩
      all_goals
        simp only [List.length_cons] at short ⊢
        omega

/-- The text of a finite decimal without its sign begins with a digit and stands for it. -/
theorem ofUnsigned?_finiteText (negative : Bool) (fits : (finite negative c e).Fits) :
    (∃ d r, finiteText c e = d :: r ∧ isDigit d = true)
      ∧ ofUnsigned? negative (Double.lowered (finiteText c e)) = some (.finite negative c e) := by
  by_cases plain : e ≤ 0 ∧ -6 ≤ e + (digitsOf c).length - 1
  · exact ofUnsigned?_plainText fits plain.1 plain.2
  · exact ofUnsigned?_exponentText fits plain

end written

/-- The text of a decimal that there is room for stands for that decimal, and for the quiet datum if
it is no number. -/
theorem ofText?_text {d : Decimal128} (fits : d.Fits) : ofText? d.text.toList = some d.quiet := by
  cases d with
  | finite negative c e =>
    obtain ⟨⟨first, r, begins, digit⟩, read⟩ := ofUnsigned?_finiteText negative fits
    rw [begins] at read
    rw [text, String.toList_ofList, begins, ofText?_of_digit digit, read]
    rfl
  | infinity negative => cases negative <;> decide
  | nan negative signalling => exact (by decide : ofText? "NaN".toList = some (.nan false false))

end RemoteDriver.Decimal128
