import Mathlib.Data.List.Forall2
import Mathlib.Data.List.Induction
import RemoteDriver.Json.Printer
import RemoteDriver.Json.Reading
import RemoteDriver.Proofs.Number.Decimal128

/-!
# Values as JSON text and back

The tree that stands at the front of a text as a value is written (`Reads`) is put together as the
value is: strings character by character (`parts?_escapedChar`), whole numbers from their digits,
arrays and objects from the trees in them.  What follows the value is left alone, as long as a
number does not go on in it (`Ends`).

A value without doubles, whose whole numbers have 64 bits and whose objects have each name once, is
determined by its text (`ofText?_text`).
-/

namespace RemoteDriver.Json

open Written

/-! ## Strings -/

/-- The digits of a control character stand for it. -/
theorem hexPart?_digits {n : Nat} (control : n < 0x20) :
    hexPart? '0' '0' (Text.Hex.digit (n / 16)) (Text.Hex.digit (n % 16))
      = some (.char (Char.ofNat n)) := by
  have all : ∀ m ∈ List.range 0x20, hexPart? '0' '0' (Text.Hex.digit (m / 16))
      (Text.Hex.digit (m % 16)) = some (.char (Char.ofNat m)) := by decide
  exact all n (List.mem_range.mpr control)

/-- A letter after a backslash is read as the character that it stands for. -/
theorem parts?_escape {c d : Char} {rest : List Char} (other : d ≠ 'u')
    (stands : escape? d = some c) :
    parts? ('\\' :: d :: rest) = (parts? rest).map fun (ps, rest) => (.char c :: ps, rest) := by
  rw [parts?, stands]
  · cases parts? rest <;> rfl
  · intro _ _ _ _ _ same
    cases same
    contradiction

/-- A character that needs no escape is read as itself. -/
theorem parts?_plain {c : Char} {rest : List Char} (quote : c ≠ '"') (backslash : c ≠ '\\')
    (printable : 0x20 ≤ c.toNat) :
    parts? (c :: rest) = (parts? rest).map fun (ps, rest) => (.char c :: ps, rest) := by
  have allowed : ¬(c = '\\' ∨ c.toNat < 0x20) := fun no =>
    no.elim backslash (Nat.not_lt.mpr printable)
  rw [parts?, if_neg allowed]
  · cases parts? rest <;> rfl
  · exact fun same => quote same
  · exact fun _ _ _ _ _ same _ => backslash same
  · exact fun _ _ same _ => backslash same

/-- A character is read back as it stands in a string. -/
theorem parts?_escapedChar (c : Char) (rest : List Char) :
    parts? (escapedChar c ++ rest)
      = (parts? rest).map fun (ps, rest) => (.char c :: ps, rest) := by
  have named {n : Nat} (h : c.toNat = n) {d : Char} (other : d ≠ 'u')
      (stands : escape? d = some (Char.ofNat n)) :
      parts? ('\\' :: d :: rest) = (parts? rest).map fun (ps, rest) => (.char c :: ps, rest) :=
    parts?_escape other (by rw [stands, ← h, Char.ofNat_toNat])
  unfold escapedChar
  split
  · next quote =>
    subst quote
    exact parts?_escape (by decide) rfl
  split
  · next backslash =>
    subst backslash
    exact parts?_escape (by decide) rfl
  split
  · next quote backslash printable => exact parts?_plain quote backslash printable
  split
  · next h => exact named h (by decide) rfl
  split
  · next h => exact named (congrArg Char.toNat h) (by decide) rfl
  split
  · next h => exact named (congrArg Char.toNat h) (by decide) rfl
  split
  · next h => exact named h (by decide) rfl
  split
  · next h => exact named (congrArg Char.toNat h) (by decide) rfl
  · next control _ _ _ _ _ =>
    show parts? ('\\' :: 'u' :: '0' :: '0' :: _ :: _ :: rest) = _
    rw [parts?, hexPart?_digits (Nat.not_le.mp control), Char.ofNat_toNat]
    cases parts? rest <;> rfl

/-- Characters are read back up to the quote after them. -/
theorem parts?_writeChars (s rest : List Char) :
    parts? (writeChars s rest) = some (s.map .char, rest) := by
  induction s with
  | nil => rw [writeChars, parts?, List.map_nil]
  | cons c s ih => rw [writeChars, parts?_escapedChar, ih, Option.map_some, List.map_cons]

/-- Characters that are no halves of pairs are a text. -/
theorem textOf_map_char (s : List Char) : textOf (s.map .char) = some s := by
  induction s with
  | nil => rfl
  | cons c s ih => rw [List.map_cons, textOf, ih, Option.map_some]

/-- A text is read back from behind its opening quote. -/
theorem string?_writeChars (s : String) (rest : List Char) :
    string? (writeChars s.toList rest) = some (some s, rest) := by
  rw [string?, parts?_writeChars, Option.map_some]
  dsimp only
  rw [textOf_map_char, Option.map_some, String.ofList_toList]

/-! ## Whole numbers -/

/-- Nothing goes on that could belong to a number. -/
def Ends (rest : List Char) : Prop :=
  ∀ c ∈ rest.head?, Number.isDigit c = false ∧ c ≠ '.' ∧ c ≠ 'e' ∧ c ≠ 'E'

/-- A number is over at the end of a text. -/
theorem ends_nil : Ends [] := nofun

/-- A number is over before a character that cannot belong to it. -/
theorem ends_cons {c : Char} {rest : List Char}
    (other : Number.isDigit c = false ∧ c ≠ '.' ∧ c ≠ 'e' ∧ c ≠ 'E') : Ends (c :: rest) :=
  fun _ same => Option.some.inj same ▸ other

section digits

variable {s rest : List Char}

/-- Digits are read up to where they end. -/
theorem takeWhile_digits (digits : s.all Number.isDigit) (ends : Ends rest) :
    (s ++ rest).takeWhile Number.isDigit = s ∧ (s ++ rest).dropWhile Number.isDigit = rest := by
  have digits := List.all_eq_true.mp digits
  rw [List.takeWhile_append_of_pos digits, List.dropWhile_append_of_pos digits]
  rcases rest with _ | ⟨c, rest⟩
  · exact ⟨List.append_nil s, rfl⟩
  · have stop : ¬Number.isDigit c = true := by rw [(ends c rfl).1]; decide
    rw [List.takeWhile_cons_of_neg stop, List.dropWhile_cons_of_neg stop, List.append_nil]
    exact ⟨rfl, rfl⟩

/-- A written natural number is read up to where it ends. -/
theorem whole?_toDigits (n : Nat) (ends : Ends rest) :
    whole? (Nat.toDigits 10 n ++ rest) = some (Nat.toDigits 10 n, rest) := by
  have digits := Number.all_isDigit_toDigits n
  have read : digits? (Nat.toDigits 10 n ++ rest) = some (Nat.toDigits 10 n, rest) := by
    obtain ⟨front, back⟩ := takeWhile_digits digits ends
    rw [digits?, front, back, if_neg Nat.toDigits_ne_nil]
  by_cases zero : n = 0
  · subst zero
    rcases rest with _ | ⟨c, rest⟩
    · rfl
    · show whole? ('0' :: c :: rest) = _
      rw [whole?, if_neg (by rw [(ends c rfl).1]; decide)]
      rfl
  · rw [whole?, read]
    intro r same
    have front := Decimal128.dropWhile_zeros_toDigits zero
    rcases h : Nat.toDigits 10 n with _ | ⟨d, ds⟩
    · exact Nat.toDigits_ne_nil h
    · rw [h, List.cons_append] at same
      cases same
      rw [h, List.dropWhile_cons_of_pos rfl] at front
      have shorter := (List.dropWhile_suffix (l := ds) (· == '0')).length_le
      rw [front, List.length_cons] at shorter
      omega

end digits

/-- The literal of a whole number. -/
def Literal.ofInt (n : Int) : Literal := ⟨decide (n < 0), Nat.toDigits 10 n.natAbs, [], none⟩

/-- A number can begin with this character. -/
def BeginsNumber (c : Char) : Prop := Number.isDigit c = true ∨ c = '-'

/-- A number begins with no character but a digit or a minus sign. -/
theorem BeginsNumber.ne {c d : Char} (begins : BeginsNumber c)
    (other : Number.isDigit d = false ∧ d ≠ '-') : c ≠ d := by
  rintro rfl
  rcases begins with digit | minus
  · rw [other.1] at digit
    cases digit
  · exact other.2 minus

/-- A number does not begin with a blank. -/
theorem BeginsNumber.isBlank_eq {c : Char} (begins : BeginsNumber c) : isBlank c = false := by
  have space : c ≠ ' ' := begins.ne (by decide)
  have newline : c ≠ '\n' := begins.ne (by decide)
  have tab : c ≠ '\t' := begins.ne (by decide)
  have return_ : c ≠ '\r' := begins.ne (by decide)
  simp [isBlank, space, newline, tab, return_]

/-- A written whole number begins with a digit or a minus. -/
theorem intText_front (n : Int) : ∃ c s, intText n = c :: s ∧ BeginsNumber c := by
  unfold intText
  split
  · exact ⟨'-', _, rfl, .inr rfl⟩
  · have digits := Number.all_isDigit_toDigits n.natAbs
    have same : (toString n.natAbs).toList = Nat.toDigits 10 n.natAbs := Nat.toList_repr
    rw [same]
    rcases h : Nat.toDigits 10 n.natAbs with _ | ⟨d, ds⟩
    · exact absurd h Nat.toDigits_ne_nil
    · rw [h] at digits
      exact ⟨d, ds, rfl, .inl (List.all_eq_true.mp digits d List.mem_cons_self)⟩

/-- A whole number is read back as its literal. -/
theorem literal?_intText (n : Int) {rest : List Char} (ends : Ends rest) :
    literal? (intText n ++ rest) = some (.ofInt n, rest) := by
  have fraction : fraction? rest = some ([], rest) := by
    rw [fraction?]
    rintro r rfl
    exact (ends '.' rfl).2.1 rfl
  have exponent : exponent? rest = some (none, rest) := by
    rcases rest with _ | ⟨c, rest⟩
    · rfl
    · have none := ends c rfl
      rw [exponent?, if_neg (by simp [none])]
  have digits : (toString n.natAbs).toList = Nat.toDigits 10 n.natAbs := Nat.toList_repr
  have whole := whole?_toDigits n.natAbs ends
  rw [intText, digits, Literal.ofInt]
  by_cases negative : n < 0
  · rw [if_pos negative, decide_eq_true negative]
    show literal? ('-' :: (Nat.toDigits 10 n.natAbs ++ rest)) = _
    simp [literal?, whole, fraction, exponent]
  · rw [if_neg negative, decide_eq_false negative, List.nil_append, literal?]
    · simp [whole, fraction, exponent]
    · intro r same
      rcases h : Nat.toDigits 10 n.natAbs with _ | ⟨d, ds⟩
      · exact Nat.toDigits_ne_nil h
      · have digit := Number.all_isDigit_toDigits n.natAbs
        rw [h] at same digit
        cases same
        exact absurd (List.all_eq_true.mp digit '-' List.mem_cons_self) (by decide)

/-- Reading digits on makes a number no smaller. -/
theorem le_digitsFrom (acc : Nat) (s : List Char) : acc ≤ Number.digitsFrom acc s := by
  induction s generalizing acc with
  | nil => exact Nat.le_refl acc
  | cons c s ih =>
    have step := ih (acc * 10 + (Number.digitValue? c).getD 0)
    rw [Number.digitsFrom]
    omega

/-- All digits of a number that is small enough are kept. -/
theorem Literal.accumulate_eq {acc : Nat} {s : List Char}
    (small : Number.digitsFrom acc s ≤ maxSignificand) :
    accumulate acc s = (Number.digitsFrom acc s, 0) := by
  induction s generalizing acc with
  | nil => rfl
  | cons c s ih =>
    rw [Number.digitsFrom] at small
    have next := Nat.le_trans (le_digitsFrom _ s) small
    rw [accumulate, if_pos next, ih small, Number.digitsFrom]

/-- A number of 64 bits is the value of its literal. -/
theorem Literal.value?_ofInt {n : Int} (above : Number.minInt64 ≤ n)
    (below : n ≤ Number.maxUInt64) : (Literal.ofInt n).value? = some (.whole n) := by
  have small : Number.digitsFrom 0 (Nat.toDigits 10 n.natAbs) ≤ maxSignificand := by
    rw [Number.digitsFrom_toDigits, maxSignificand]
    unfold Number.minInt64 at above
    unfold Number.maxUInt64 at below ⊢
    omega
  rw [value?, ofInt, accumulate_eq small, Number.digitsFrom_toDigits]
  dsimp only
  rw [if_pos rfl, if_pos ⟨rfl, rfl⟩]
  by_cases negative : n < 0
  · have range : 0 < n.natAbs ∧ n.natAbs ≤ Number.twoTo 63 := by
      unfold Number.minInt64 at above
      have power : Number.twoTo 63 = 0x8000000000000000 := rfl
      omega
    rw [decide_eq_true negative, if_neg (by decide), if_pos range]
    congr
    omega
  · rw [decide_eq_false negative, if_pos (by decide)]
    congr
    omega

/-! ## What follows is left alone -/

/-- What follows a string is left alone. -/
theorem writeString_append (s : String) (rest more : List Char) :
    writeString s (rest ++ more) = writeString s rest ++ more := by
  have chars (cs : List Char) : writeChars cs (rest ++ more) = writeChars cs rest ++ more := by
    induction cs with
    | nil => rfl
    | cons c cs ih => rw [writeChars, writeChars, ih, List.append_assoc]
  rw [writeString, writeString, chars, List.cons_append]

mutual

/-- What follows a value is left alone. -/
theorem write_append (v : Json) (rest more : List Char) :
    write v (rest ++ more) = write v rest ++ more := by
  cases v with
  | null => rfl
  | boolean b => cases b <;> rfl
  | number n => rw [write, write, List.append_assoc]
  | string s => exact writeString_append s rest more
  | array items =>
    rw [write, write, ← List.cons_append, writeItems_append, List.cons_append]
  | object members =>
    rw [write, write, ← List.cons_append, writeMembers_append, List.cons_append]

/-- What follows the items of an array is left alone. -/
theorem writeItems_append (items : List Json) (rest more : List Char) :
    writeItems items (rest ++ more) = writeItems items rest ++ more := by
  match items with
  | [] => rfl
  | [v] => exact write_append v rest more
  | v :: w :: vs =>
    rw [writeItems, writeItems, writeItems_append (w :: vs), ← List.cons_append, write_append]

/-- What follows the members of an object is left alone. -/
theorem writeMembers_append (members : List (String × Json)) (rest more : List Char) :
    writeMembers members (rest ++ more) = writeMembers members rest ++ more := by
  match members with
  | [] => rfl
  | [(k, v)] =>
    rw [writeMembers, writeMembers, write_append, ← List.cons_append, writeString_append]
  | (k, v) :: m :: ms =>
    rw [writeMembers, writeMembers, writeMembers_append (m :: ms), ← List.cons_append,
      write_append, ← List.cons_append, writeString_append]

end

/-- The length of a value before something is its own and that of what follows. -/
theorem length_write (v : Json) (rest : List Char) :
    (write v rest).length = (write v []).length + rest.length := by
  rw [← List.length_append, ← write_append, List.nil_append]

/-- The length of a name before something is its own and that of what follows. -/
theorem length_writeString (s : String) (rest : List Char) :
    (writeString s rest).length = (writeString s []).length + rest.length := by
  rw [← List.length_append, ← writeString_append, List.nil_append]

/-! ## Values -/

/-! ### Their first characters -/

/-- Nothing is skipped before a character that is no blank. -/
theorem skip_cons {c : Char} (black : isBlank c = false) (s : List Char) :
    skip (c :: s) = c :: s :=
  List.dropWhile_cons_of_neg (by rw [black]; decide)

/-- A text that begins as a number does is read as one. -/
theorem value?_number {c : Char} (begins : BeginsNumber c) (fuel : Nat) (s : List Char) :
    value? (fuel + 1) (c :: s)
      = (literal? (c :: s)).map fun (literal, rest) => (.number literal, rest) := by
  rw [value?, skip_cons begins.isBlank_eq]
  split
  all_goals first
    | rfl
    | (next same => exact absurd (List.cons.inj same).1 (begins.ne (by decide)))

/-- An array that does not close at once has values. -/
theorem value?_array {c : Char} (black : isBlank c = false) (more : c ≠ ']') (fuel : Nat)
    (s : List Char) :
    value? (fuel + 1) ('[' :: c :: s)
      = (items? fuel (c :: s)).map fun (items, rest) => (.array items, rest) := by
  have bracket : isBlank '[' = false := by decide
  simp [value?, skip_cons bracket, skip_cons black, more]

/-- An object that does not close at once has members. -/
theorem value?_object (fuel : Nat) (s : List Char) :
    value? (fuel + 1) ('\x7b' :: '"' :: s)
      = (members? fuel ('"' :: s)).map fun (members, rest) => (.object members, rest) := rfl

section member

variable {fuel : Nat} {s rest : List Char} {w : Written}

/-- A quotation mark is not skipped. -/
theorem isBlank_quote : isBlank '"' = false := by decide

/-- A colon is not skipped. -/
theorem isBlank_colon : isBlank ':' = false := by decide

/-- The value of the last member follows its name and a colon. -/
theorem members?_last (k : String) (value : value? fuel s = some (w, Char.ofNat 0x7D :: rest)) :
    members? (fuel + 1) (writeString k (':' :: s)) = some ([(some k, w)], rest) := by
  simp only [writeString, members?, skip_cons isBlank_quote, string?_writeChars,
    skip_cons isBlank_colon, value]
  rfl

/-- The value of any other member follows its name and a colon, and a comma follows the value. -/
theorem members?_next (k : String) (value : value? fuel s = some (w, ',' :: rest)) :
    members? (fuel + 1) (writeString k (':' :: s))
      = (members? fuel rest).map fun (ms, rest) => ((some k, w) :: ms, rest) := by
  simp only [writeString, members?, skip_cons isBlank_quote, string?_writeChars,
    skip_cons isBlank_colon, value]
  rfl

end member

/-! ### Trees -/

/-- What a value is written as is read as the tree `w`, whatever follows. -/
structure Reads (v : Json) (w : Written) : Prop where
  /-- The value begins with a character that is no blank and closes no array. -/
  front : ∃ c s, write v [] = c :: s ∧ isBlank c = false ∧ c ≠ ']'
  /-- As much fuel as the value has characters is enough. -/
  taken : ∀ fuel rest, Ends rest → (write v []).length ≤ fuel →
    value? fuel (write v rest) = some (w, rest)

namespace Reads

variable {v : Json} {w : Written}

/-- Null is read back. -/
theorem null : Reads .null .null where
  front := ⟨_, _, rfl, by decide, by decide⟩
  taken fuel rest _ enough := by
    obtain _ | fuel := fuel
    · exact absurd enough (by decide)
    · rfl

/-- A truth value is read back. -/
theorem boolean (b : Bool) : Reads (.boolean b) (.boolean b) where
  front := by cases b <;> exact ⟨_, _, rfl, by decide, by decide⟩
  taken fuel rest _ enough := by
    obtain _ | fuel := fuel
    · cases b <;> exact absurd enough (by decide)
    · cases b <;> rfl

/-- A string is read back, and its text is in order. -/
theorem string (s : String) : Reads (.string s) (.string (some s)) where
  front := ⟨_, _, rfl, by decide, by decide⟩
  taken fuel rest _ enough := by
    obtain _ | fuel := fuel
    · exact absurd enough (Nat.not_succ_le_zero _)
    · show (string? (writeChars s.toList rest)).map _ = _
      rw [string?_writeChars, Option.map_some]

/-- A whole number is read back as its literal. -/
theorem whole (n : Int) : Reads (.number (.whole n)) (.number (.ofInt n)) where
  front := by
    obtain ⟨c, s, same, begins⟩ := intText_front n
    exact ⟨c, s, by rw [write, Number.text, List.append_nil, same], begins.isBlank_eq,
      begins.ne (by decide)⟩
  taken fuel rest ends enough := by
    obtain ⟨c, s, same, begins⟩ := intText_front n
    have literal := literal?_intText n ends
    rw [write, Number.text, same] at enough ⊢
    rw [same] at literal
    obtain _ | fuel := fuel
    · exact absurd enough (Nat.not_succ_le_zero _)
    · rw [List.cons_append, value?_number begins, ← List.cons_append, literal, Option.map_some]

section array

variable {items : List Json} {ws : List Written}

/-- Values with commas between them are read up to the bracket after them. -/
theorem items?_writeItems (reads : List.Forall₂ Reads items ws) (filled : items ≠ []) {fuel : Nat}
    (enough : (writeItems items []).length < fuel) (rest : List Char) :
    items? fuel (writeItems items (']' :: rest)) = .some (ws, rest) := by
  induction reads generalizing fuel with
  | nil => contradiction
  | @cons v w vs ws first more ih =>
    obtain _ | fuel := fuel
    · exact absurd enough (Nat.not_lt_zero _)
    rcases vs with _ | ⟨u, vs⟩
    · cases more
      rw [writeItems] at enough ⊢
      rw [items?, first.taken fuel _ (ends_cons (by decide)) (Nat.le_of_lt_succ enough)]
      rfl
    · rw [writeItems, length_write, List.length_cons] at enough
      rw [writeItems, items?, first.taken fuel _ (ends_cons (by decide)) (by omega)]
      show (items? fuel (writeItems (u :: vs) (']' :: rest))).map _ = _
      rw [ih (List.cons_ne_nil _ _) (by omega), Option.map_some]

/-- Values begin as the first of them does. -/
theorem writeItems_front {v : Json} {w : Written} (first : Reads v w) (vs : List Json)
    (rest : List Char) :
    ∃ c s, writeItems (v :: vs) rest = c :: s ∧ isBlank c = false ∧ c ≠ ']' := by
  obtain ⟨c, s, same, begins⟩ := first.front
  have front (more : List Char) : write v more = c :: (s ++ more) := by
    rw [← List.nil_append more, write_append, same, List.nil_append, List.cons_append]
  rcases vs with _ | ⟨u, vs⟩
  · exact ⟨c, _, front rest, begins⟩
  · exact ⟨c, _, front _, begins⟩

/-- Trees of values are the tree of their array. -/
theorem array (reads : List.Forall₂ Reads items ws) : Reads (.array items) (.array ws) where
  front := ⟨_, _, rfl, by decide, by decide⟩
  taken fuel rest _ enough := by
    obtain _ | fuel := fuel
    · exact absurd enough (Nat.not_succ_le_zero _)
    rcases reads with _ | ⟨first, more⟩
    · rfl
    · rw [write, ← List.nil_append [']'], writeItems_append, List.length_cons, List.length_append,
        List.length_singleton] at enough
      obtain ⟨c, s, same, black, more'⟩ := writeItems_front first _ (']' :: rest)
      have taken := items?_writeItems (.cons first more) (List.cons_ne_nil _ _)
        (show _ < fuel by omega) rest
      rw [same] at taken
      rw [write, same, value?_array black more', taken, Option.map_some]

end array

section object

/-- What a member is written as is read as its name and the tree of its value. -/
def Member (m : String × Json) (w : Option String × Written) : Prop :=
  w.1 = some m.1 ∧ Reads m.2 w.2

variable {members : List (String × Json)} {ws : List (Option String × Written)}

/-- Members with commas between them are read up to the brace after them. -/
theorem members?_writeMembers (reads : List.Forall₂ Member members ws) (filled : members ≠ [])
    {fuel : Nat} (enough : (writeMembers members []).length < fuel) (rest : List Char) :
    members? fuel (writeMembers members (Char.ofNat 0x7D :: rest)) = .some (ws, rest) := by
  induction reads generalizing fuel with
  | nil => contradiction
  | @cons m w ms ws first more ih =>
    obtain ⟨k, v⟩ := m
    obtain ⟨name, w⟩ := w
    obtain ⟨rfl, first⟩ : name = .some k ∧ Reads v w := first
    obtain _ | fuel := fuel
    · exact absurd enough (Nat.not_lt_zero _)
    rcases ms with _ | ⟨m, ms⟩
    · cases more
      rw [writeMembers, length_writeString, List.length_cons] at enough
      exact members?_last k (first.taken fuel _ (ends_cons (by decide)) (by omega))
    · rw [writeMembers, length_writeString, List.length_cons, length_write, List.length_cons]
        at enough
      rw [writeMembers, members?_next k (first.taken fuel _ (ends_cons (by decide)) (by omega)),
        ih (List.cons_ne_nil _ _) (by omega), Option.map_some]

/-- Members begin with the quote of the first name. -/
theorem writeMembers_front (m : String × Json) (ms : List (String × Json)) (rest : List Char) :
    ∃ s, writeMembers (m :: ms) rest = '"' :: s := by
  rcases ms with _ | ⟨_, ms⟩ <;> exact ⟨_, rfl⟩

/-- Trees of members are the tree of their object. -/
theorem object (reads : List.Forall₂ Member members ws) : Reads (.object members) (.object ws) where
  front := ⟨_, _, rfl, by decide, by decide⟩
  taken fuel rest _ enough := by
    obtain _ | fuel := fuel
    · exact absurd enough (Nat.not_succ_le_zero _)
    rcases reads with _ | ⟨first, more⟩
    · rfl
    · rw [write, ← List.nil_append [Char.ofNat 0x7D], writeMembers_append, List.length_cons,
        List.length_append, List.length_singleton] at enough
      have taken := members?_writeMembers (.cons first more) (List.cons_ne_nil _ _)
        (show _ < fuel by omega) rest
      obtain ⟨s, same⟩ := writeMembers_front _ _ (Char.ofNat 0x7D :: rest)
      rw [same] at taken
      rw [write, same]
      show value? (fuel + 1) ('\x7b' :: '"' :: s) = _
      rw [value?_object, taken, Option.map_some]

end object

/-- The text of a value is read as its tree. -/
theorem ofText?_text (reads : Reads v w) : Written.ofText? v.text = some w := by
  rw [Written.ofText?, text, String.toList_ofList,
    reads.taken _ _ ends_nil (Nat.le_succ _)]
  rfl

end Reads

/-! ## Values that their text determines -/

/-- A value without doubles that nests arrays and objects at most `depth` deep: its whole numbers
have 64 bits, and its objects have each name once. -/
inductive Exact : (depth : Nat) → Json → Prop
  /-- The value `null`. -/
  | null {depth : Nat} : Exact depth .null
  /-- A truth value. -/
  | boolean {depth : Nat} (b : Bool) : Exact depth (.boolean b)
  /-- A whole number that fits, with a sign or without one. -/
  | whole {depth : Nat} {n : Int} (above : Number.minInt64 ≤ n) (below : n ≤ Number.maxUInt64) :
    Exact depth (.number (.whole n))
  /-- A text. -/
  | string {depth : Nat} (s : String) : Exact depth (.string s)
  /-- Such values in order. -/
  | array {depth : Nat} {items : List Json} (each : ∀ v ∈ items, Exact depth v) :
    Exact (depth + 1) (.array items)
  /-- Such values with names of their own. -/
  | object {depth : Nat} {members : List (String × Json)} (names : (members.map (·.1)).Nodup)
    (each : ∀ m ∈ members, Exact depth m.2) : Exact (depth + 1) (.object members)

/-- A member of a new name comes last. -/
theorem insert_of_not_mem {α : Type} {name : String} {members : List (String × α)}
    (new : name ∉ members.map (·.1)) (value : α) :
    insert name value members = members ++ [(name, value)] := by
  induction members with
  | nil => rfl
  | cons m members ih =>
    rw [List.map_cons, List.mem_cons, not_or] at new
    rw [insert, if_neg (Ne.symm new.1), ih new.2, List.cons_append]

/-- Members with names of their own are left as they are. -/
theorem distinct_of_nodup {α : Type} {members : List (String × α)}
    (names : (members.map (·.1)).Nodup) : distinct members = members := by
  induction members using List.reverseRecOn with
  | nil => rfl
  | append_singleton members m ih =>
    rw [List.map_append, List.nodup_append] at names
    obtain ⟨before, -, apart⟩ := names
    rw [distinct, List.foldl_append, ← distinct, ih before]
    exact insert_of_not_mem (fun old => apart _ old m.1 List.mem_cons_self rfl) m.2

/-- The trees that fill a list, given one for each place. -/
theorem exists_forall₂ {α β : Type} {R : α → β → Prop} {as : List α} (each : ∀ a ∈ as, ∃ b, R a b) :
    ∃ bs, List.Forall₂ R as bs := by
  induction as with
  | nil => exact ⟨[], .nil⟩
  | cons a as ih =>
    obtain ⟨b, first⟩ := each a List.mem_cons_self
    obtain ⟨bs, rest⟩ := ih fun a member => each a (List.mem_cons_of_mem _ member)
    exact ⟨b :: bs, .cons first rest⟩

section values

variable {depth : Nat}

/-- Trees that stand for the items stand for the whole array. -/
theorem values_of_forall₂ {items : List Json} {ws : List Written}
    (each : List.Forall₂ (fun v w => Written.value depth w = some v) items ws) :
    Written.values depth ws = some items := by
  induction each with
  | nil => rfl
  | cons first _ ih => rw [Written.values, first, ih]

/-- Trees that stand for the members stand for the whole object. -/
theorem namedValues_of_forall₂ {members : List (String × Json)}
    {ws : List (Option String × Written)}
    (each : List.Forall₂ (fun m w => w.1 = some m.1 ∧ Written.value depth w.2 = some m.2)
      members ws) :
    Written.namedValues depth ws = some members := by
  induction each with
  | nil => rfl
  | @cons m w _ _ first _ ih =>
    obtain ⟨k, w⟩ := w
    obtain ⟨rfl, value⟩ : k = some m.1 ∧ Written.value depth w = some m.2 := first
    simp only [Written.namedValues, value, ih]

/-- Values that have trees with these values have them all at once. -/
theorem exists_items {items : List Json}
    (each : ∀ v ∈ items, ∃ w, Reads v w ∧ Written.value depth w = some v) :
    ∃ ws, List.Forall₂ Reads items ws ∧ Written.values depth ws = some items := by
  obtain ⟨ws, trees⟩ := exists_forall₂ each
  exact ⟨ws, trees.imp fun _ _ both => both.1, values_of_forall₂ (trees.imp fun _ _ both => both.2)⟩

/-- Members whose values have trees with these values have them all at once. -/
theorem exists_members {members : List (String × Json)}
    (each : ∀ m ∈ members, ∃ w, Reads m.2 w ∧ Written.value depth w = some m.2) :
    ∃ ws, List.Forall₂ Reads.Member members ws
      ∧ Written.namedValues depth ws = some members := by
  have trees : ∀ m ∈ members, ∃ w : Option String × Written,
      Reads.Member m w ∧ w.1 = some m.1 ∧ Written.value depth w.2 = some m.2 := by
    intro m member
    obtain ⟨w, reads, value⟩ := each m member
    exact ⟨(some m.1, w), ⟨rfl, reads⟩, rfl, value⟩
  obtain ⟨ws, trees⟩ := exists_forall₂ trees
  exact ⟨ws, trees.imp fun _ _ both => both.1,
    namedValues_of_forall₂ (trees.imp fun _ _ both => both.2)⟩

/-- Such a value is written as a tree that has it for its value. -/
theorem Exact.exists_reads {v : Json} (exact : Exact depth v) :
    ∃ w, Reads v w ∧ Written.value depth w = some v := by
  induction exact with
  | null => exact ⟨_, .null, by rw [Written.value]⟩
  | boolean b => exact ⟨_, .boolean b, by rw [Written.value]⟩
  | whole above below =>
    exact ⟨_, .whole _, by rw [Written.value, Literal.value?_ofInt above below, Option.map_some]⟩
  | string s => exact ⟨_, .string s, by rw [Written.value, Option.map_some]⟩
  | array _ ih =>
    obtain ⟨ws, reads, values⟩ := exists_items ih
    exact ⟨.array ws, .array reads, by rw [Written.value, values, Option.map_some]⟩
  | object names _ ih =>
    obtain ⟨ws, reads, values⟩ := exists_members ih
    refine ⟨.object ws, .object reads, ?_⟩
    rw [Written.value, values, Option.map_some, distinct_of_nodup names]

end values

/-- Such a value is read back from its text. -/
theorem ofText?_text {v : Json} (exact : Exact maxDepth v) : ofText? v.text = some v := by
  obtain ⟨w, reads, value⟩ := exact.exists_reads
  rw [ofText?, reads.ofText?_text, Option.bind_some, value]

end RemoteDriver.Json
