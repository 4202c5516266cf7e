import RemoteDriver.Codec

/-!
# Values that cross the wire and what becomes of them

A value crosses the wire unharmed if nothing in it is beyond the relaxed form (`Crosses`, asked of
it and of all values in it with `Throughout`).  It does not always come back as the same datum: a
whole number comes back in the narrower type where that holds it, and the options of a regular
expression come back sorted (`settled`).  A value and what becomes of it are written alike
(`relaxed_settled`).
-/

namespace RemoteDriver.Bson

/-! ## Values within a value -/

mutual

/-- A property of a value and of all items and fields in it.  The scopes of code are left out. -/
def Throughout (p : Value → Prop) : Value → Prop
  | .array items => p (.array items) ∧ ThroughoutItems p items
  | .document fields => p (.document fields) ∧ ThroughoutFields p fields
  | v => p v

/-- The same of all values of an array. -/
def ThroughoutItems (p : Value → Prop) : List Value → Prop
  | [] => True
  | v :: vs => Throughout p v ∧ ThroughoutItems p vs

/-- The same of all fields of a document. -/
def ThroughoutFields (p : Value → Prop) : Document → Prop
  | [] => True
  | (_, v) :: rest => Throughout p v ∧ ThroughoutFields p rest

end

/-- What the relaxed form asks of a value as such: doubles are finite, code has no scope, the names
of a document are not reserved, and a decimal number is one that a text stands for. -/
def Crosses : Value → Prop
  | .double d => d.isFinite = true
  | .javaScriptCodeWithScope _ _ => False
  | .document fields => ∀ m : Mark, m.name ∉ fields.map (·.1)
  | .decimal128 d => ∃ text, Decimal128.ofText? text = some d
  | _ => True

/-- Values without the two data that a JSON text cannot bring or that are written in another way:
doubles that are no finite numbers, and code with a scope. -/
def IsPlain : Value → Prop
  | .double d => d.isFinite = true
  | .javaScriptCodeWithScope _ _ => False
  | _ => True

/-! ## What becomes of values -/

section settled

variable (onDecimal : Decimal128 → Decimal128)

mutual

/-- What becomes of a value that is written and read; `onDecimal` is what becomes of decimal
numbers. -/
def settled : Value → Value
  | .int64 n => if Number.fitsInt32 n.toInt then .int32 (Int32.ofInt n.toInt) else .int64 n
  | .regularExpression pattern options => .regularExpression pattern (sortedText options)
  | .decimal128 d => .decimal128 (onDecimal d)
  | .array items => .array (settledItems items)
  | .document fields => .document (settledFields fields)
  | v => v

/-- What becomes of the values of an array. -/
def settledItems : List Value → List Value
  | [] => []
  | v :: vs => settled v :: settledItems vs

/-- What becomes of the fields of a document: their names stay. -/
def settledFields : Document → Document
  | [] => []
  | (name, v) :: rest => (name, settled v) :: settledFields rest

end

end settled

/-- Sorting a text again changes nothing. -/
theorem sortedText_sortedText (s : String) : sortedText (sortedText s) = sortedText s := by
  unfold sortedText
  rw [String.toList_ofList, List.mergeSort_of_pairwise]
  apply List.pairwise_mergeSort
  · intro a b c ab bc
    simp only [decide_eq_true_eq] at ab bc ⊢
    exact Nat.le_trans ab bc
  · intro a b
    simp only [Bool.or_eq_true, decide_eq_true_eq]
    exact Nat.le_total _ _

/-- A number that 32 bits hold is the same number in either type. -/
theorem toInt_ofInt_of_fitsInt32 {n : Int} (fits : Number.fitsInt32 n = true) :
    (Int32.ofInt n).toInt = n := by
  unfold Number.fitsInt32 Number.minInt32 Number.maxInt32 at fits
  simp only [Bool.and_eq_true, decide_eq_true_eq] at fits
  exact Int32.toInt_ofInt_of_le (by omega) (by omega)

mutual

/-- A value and what becomes of it are written alike, if decimal numbers keep their text. -/
theorem relaxed_settled {onDecimal : Decimal128 → Decimal128}
    (keeps : ∀ d, (onDecimal d).text = d.text) (v : Value) :
    relaxed (settled onDecimal v) = relaxed v := by
  cases v with
  | int64 n =>
    rw [settled]
    split
    · next fits => rw [relaxed, relaxed, toInt_ofInt_of_fitsInt32 fits]
    · rfl
  | regularExpression pattern options =>
    rw [settled, relaxed, relaxed, writePattern, writePattern, sortedText_sortedText]
  | decimal128 d => rw [settled, relaxed, relaxed, keeps]
  | array items => rw [settled, relaxed, relaxed, relaxedItems_settledItems keeps]
  | document fields => rw [settled, relaxed, relaxed, relaxedFields_settledFields keeps]
  | _ => rfl

/-- The items of an array are written like what becomes of them. -/
theorem relaxedItems_settledItems {onDecimal : Decimal128 → Decimal128}
    (keeps : ∀ d, (onDecimal d).text = d.text) (items : List Value) :
    relaxedItems (settledItems onDecimal items) = relaxedItems items := by
  cases items with
  | nil => rfl
  | cons v vs =>
    rw [settledItems, relaxedItems, relaxedItems, relaxed_settled keeps,
      relaxedItems_settledItems keeps]

/-- The fields of a document are written like what becomes of them. -/
theorem relaxedFields_settledFields {onDecimal : Decimal128 → Decimal128}
    (keeps : ∀ d, (onDecimal d).text = d.text) (fields : Document) :
    relaxedFields (settledFields onDecimal fields) = relaxedFields fields := by
  cases fields with
  | nil => rfl
  | cons field rest =>
    obtain ⟨name, v⟩ := field
    rw [settledFields, relaxedFields, relaxedFields, relaxed_settled keeps,
      relaxedFields_settledFields keeps]

end

/-! ## Finite doubles -/

open Codec (nonFinite? nonFiniteItem? nonFiniteField?)

mutual

/-- A value that crosses the wire passes the check of its doubles. -/
theorem nonFinite?_of_crosses {v : Value} (h : Throughout Crosses v) : nonFinite? v = none := by
  cases v with
  | double d => exact if_pos h
  | array items => exact nonFiniteItem?_of_crosses h.2
  | document fields => exact nonFiniteField?_of_crosses h.2
  | _ => rfl

/-- An array that crosses the wire has no double without a form. -/
theorem nonFiniteItem?_of_crosses {items : List Value} (h : ThroughoutItems Crosses items) :
    nonFiniteItem? items = none := by
  cases items with
  | nil => rfl
  | cons v vs =>
    rw [nonFiniteItem?, nonFinite?_of_crosses h.1]
    exact nonFiniteItem?_of_crosses h.2

/-- A document that crosses the wire has no double without a form. -/
theorem nonFiniteField?_of_crosses {fields : Document} (h : ThroughoutFields Crosses fields) :
    nonFiniteField? fields = none := by
  cases fields with
  | nil => rfl
  | cons field rest =>
    obtain ⟨name, v⟩ := field
    rw [nonFiniteField?, nonFinite?_of_crosses h.1]
    exact nonFiniteField?_of_crosses h.2

end

mutual

/-- What becomes of a value has the same doubles. -/
theorem nonFinite?_settled (onDecimal : Decimal128 → Decimal128) (v : Value) :
    nonFinite? (settled onDecimal v) = nonFinite? v := by
  cases v with
  | int64 n =>
    rw [settled]
    split <;> rfl
  | array items => exact nonFiniteItem?_settled onDecimal items
  | document fields => exact nonFiniteField?_settled onDecimal fields
  | _ => rfl

/-- What becomes of the items has the same doubles without a form. -/
theorem nonFiniteItem?_settled (onDecimal : Decimal128 → Decimal128) (items : List Value) :
    nonFiniteItem? (settledItems onDecimal items) = nonFiniteItem? items := by
  cases items with
  | nil => rfl
  | cons v vs =>
    rw [settledItems, nonFiniteItem?, nonFiniteItem?, nonFinite?_settled onDecimal v,
      nonFiniteItem?_settled onDecimal vs]

/-- What becomes of the fields has the same doubles without a form. -/
theorem nonFiniteField?_settled (onDecimal : Decimal128 → Decimal128) (fields : Document) :
    nonFiniteField? (settledFields onDecimal fields) = nonFiniteField? fields := by
  cases fields with
  | nil => rfl
  | cons field rest =>
    obtain ⟨name, v⟩ := field
    rw [settledFields, nonFiniteField?, nonFiniteField?, nonFinite?_settled onDecimal v,
      nonFiniteField?_settled onDecimal rest]

end

end RemoteDriver.Bson
