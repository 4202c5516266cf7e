import RemoteDriver.Number.Double

/-!
# JSON values

Values with ordered members.  A number is either whole or a double; both kinds are kept apart,
because a value that was written as `4` is another datum than one written as `4.0`.
-/

namespace RemoteDriver

namespace Json

/-- A JSON number. -/
inductive Number
  /-- A whole number, written without a point and without an exponent. -/
  | whole (n : Int)
  /-- Any other number. -/
  | double (d : Double)
deriving DecidableEq, Repr

end Json

/-- A JSON value. -/
inductive Json
  /-- The value `null`. -/
  | null
  /-- A truth value. -/
  | boolean (b : Bool)
  /-- A number. -/
  | number (n : Json.Number)
  /-- A text. -/
  | string (s : String)
  /-- Values in order. -/
  | array (items : List Json)
  /-- Named values in order. -/
  | object (members : List (String × Json))
deriving Repr, Inhabited

namespace Json

/-- Members with one more: in the place of the member of that name if there is one, at the end
otherwise. -/
def insert {α : Type} (name : String) (value : α) : List (String × α) → List (String × α)
  | [] => [(name, value)]
  | (k, v) :: rest => if k = name then (k, value) :: rest else (k, v) :: insert name value rest

/-- Members with each name once: in the place where it came first and with the value that came
last. -/
def distinct {α : Type} (members : List (String × α)) : List (String × α) :=
  members.foldl (fun known (name, value) => insert name value known) []

/-- Number, from a whole number. -/
def ofInt (n : Int) : Json := .number (.whole n)

mutual

/-- Equality of values; whole numbers and doubles differ, members are compared in order. -/
def same : Json → Json → Bool
  | .null, .null => true
  | .boolean a, .boolean b => a == b
  | .number a, .number b => decide (a = b)
  | .string a, .string b => a == b
  | .array a, .array b => sameItems a b
  | .object a, .object b => sameMembers a b
  | _, _ => false

/-- Equality of lists of values. -/
def sameItems : List Json → List Json → Bool
  | [], [] => true
  | a :: as, b :: bs => same a b && sameItems as bs
  | _, _ => false

/-- Equality of lists of members. -/
def sameMembers : List (String × Json) → List (String × Json) → Bool
  | [], [] => true
  | (k, a) :: as, (l, b) :: bs => k == l && same a b && sameMembers as bs
  | _, _ => false

end

end Json

end RemoteDriver
