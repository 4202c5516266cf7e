import RemoteDriver.Proofs.Wire.Envelope

/-!
# Doubles on the wire

JSON has no numbers but finite ones.  The relaxed codec looks for a double that is no finite number
before it writes anything, and it finds one wherever it stands in arrays and documents, however deep
(`nonFinite?_eq_none_iff`); a call with such a value is refused before anything is posted.  It does
not look into the scopes of code, and inside a scope such a double is written as null.

`Within` tells where a value stands in another one, and whether the way there leads through a scope;
`Stands` tells what stands at the same place of what is written.  The main statement is
`non_finite_doubles_are_refused`.
-/

namespace RemoteDriver

open Bson (Value Document)

namespace Bson

/-! ## Places in values -/

/-- A value stands somewhere within another one.  The truth value tells whether the way to it leads
through the scope of code. -/
inductive Within (u : Value) : Bool → Value → Prop
  /-- The value itself. -/
  | here : Within u false u
  /-- Within an item of an array. -/
  | item {veiled : Bool} {v : Value} {items : List Value} (member : v ∈ items)
      (within : Within u veiled v) : Within u veiled (.array items)
  /-- Within a field of a document. -/
  | field {veiled : Bool} {f : String × Value} {fields : Document} (member : f ∈ fields)
      (within : Within u veiled f.2) : Within u veiled (.document fields)
  /-- Within a variable of code. -/
  | scope {veiled : Bool} {code : String} {f : String × Value} {scope : Document}
      (member : f ∈ scope) (within : Within u veiled f.2) :
      Within u true (.javaScriptCodeWithScope code scope)

/-- Something stands in what is written of a value at the place where a value stands within it, in
the order of items, fields and variables. -/
inductive Stands (u : Value) (k : Json) : Bool → Value → Json → Prop
  /-- At the top. -/
  | here : Stands u k false u k
  /-- Within an item of an array. -/
  | item {veiled : Bool} {v : Value} {j : Json} {items : List Value} {js : List Json} (i : Nat)
      (inside : items[i]? = some v) (written : js[i]? = some j) (stands : Stands u k veiled v j) :
      Stands u k veiled (.array items) (.array js)
  /-- Within a field of a document. -/
  | field {veiled : Bool} {name : String} {v : Value} {j : Json} {fields : Document}
      {members : List (String × Json)} (i : Nat) (inside : fields[i]? = some (name, v))
      (written : members[i]? = some (name, j)) (stands : Stands u k veiled v j) :
      Stands u k veiled (.document fields) (.object members)
  /-- Within a variable of code. -/
  | scope {veiled : Bool} {code name : String} {v : Value} {j : Json} {scope : Document}
      {members : List (String × Json)} (i : Nat) (inside : scope[i]? = some (name, v))
      (written : members[i]? = some (name, j)) (stands : Stands u k veiled v j) :
      Stands u k true (.javaScriptCodeWithScope code scope)
        (.object [(Mark.code.name, .string code), ("$scope", .object members)])

/-- A double within a value, outside all scopes, that is no finite number. -/
def NonFinite (d : Double) (v : Value) : Prop := d.isFinite = false ∧ Within (.double d) false v

/-! ## What is written there -/

/-- The items of an array are written one by one. -/
theorem relaxedItems_eq (items : List Value) : relaxedItems items = items.map relaxed := by
  induction items with
  | nil => rfl
  | cons v vs ih => rw [relaxedItems, ih, List.map_cons]

/-- The fields of a document are written one by one, each under its name. -/
theorem relaxedFields_eq (fields : Document) :
    relaxedFields fields = fields.map fun f => (f.1, relaxed f.2) := by
  induction fields with
  | nil => rfl
  | cons f fields ih => rw [relaxedFields, ih, List.map_cons]

/-- The items of an array in a scope are written one by one. -/
theorem inScopeItems_eq (items : List Value) : inScopeItems items = items.map inScope := by
  induction items with
  | nil => rfl
  | cons v vs ih => rw [inScopeItems, ih, List.map_cons]

/-- The fields of a document in a scope are written one by one, each under its name. -/
theorem inScopeFields_eq (fields : Document) :
    inScopeFields fields = fields.map fun f => (f.1, inScope f.2) := by
  induction fields with
  | nil => rfl
  | cons f fields ih => rw [inScopeFields, ih, List.map_cons]

/-- A way of writing values that writes items and fields in the same way, each in its place, and the
variables of code in the way of scopes. -/
structure Writes (f : Value → Json) : Prop where
  /-- Items. -/
  array (items : List Value) : f (.array items) = .array (items.map f)
  /-- Fields. -/
  document (fields : Document) :
    f (.document fields) = .object (fields.map fun m => (m.1, f m.2))
  /-- Variables. -/
  scope (code : String) (scope : Document) : f (.javaScriptCodeWithScope code scope)
    = .object [(Mark.code.name, .string code),
      ("$scope", .object (scope.map fun m => (m.1, inScope m.2)))]

/-- The relaxed form writes each value in its place. -/
theorem writes_relaxed : Writes relaxed where
  array items := by rw [relaxed, relaxedItems_eq]
  document fields := by rw [relaxed, relaxedFields_eq]
  scope code scope := by rw [relaxed, inScopeFields_eq]

/-- The form in scopes writes each value in its place. -/
theorem writes_inScope : Writes inScope where
  array items := by rw [inScope, inScopeItems_eq]
  document fields := by rw [inScope, inScopeFields_eq]
  scope code scope := by rw [inScope, inScopeFields_eq]

/-- The form of a value at its place. -/
def placed (f : Value → Json) (veiled : Bool) (u : Value) : Json :=
  if veiled then inScope u else f u

section places

variable {f : Value → Json} {u v : Value} {k j : Json} {veiled : Bool}

/-- Something stands only where the value does. -/
theorem Stands.within (stands : Stands u k veiled v j) : Within u veiled v := by
  induction stands with
  | here => exact .here
  | item _ inside _ _ ih => exact .item (List.mem_of_getElem? inside) ih
  | field _ inside _ _ ih => exact .field (List.mem_of_getElem? inside) ih
  | scope _ inside _ _ ih => exact .scope (List.mem_of_getElem? inside) ih

/-- The form of a value stands where the value does. -/
theorem Within.stands (within : Within u veiled v) (writes : Writes f) :
    Stands u (placed f veiled u) veiled v (f v) := by
  induction within generalizing f with
  | here => exact .here
  | item member _ ih =>
    obtain ⟨i, inside⟩ := List.mem_iff_getElem?.mp member
    rw [writes.array]
    exact .item i inside (by rw [List.getElem?_map, inside]; rfl) (ih writes)
  | field member _ ih =>
    obtain ⟨i, inside⟩ := List.mem_iff_getElem?.mp member
    rw [writes.document]
    exact .field i inside (by rw [List.getElem?_map, inside]; rfl) (ih writes)
  | scope member _ ih =>
    obtain ⟨i, inside⟩ := List.mem_iff_getElem?.mp member
    have stands := ih writes_inScope
    rw [placed, ite_self] at stands
    rw [writes.scope]
    exact .scope i inside (by rw [List.getElem?_map, inside]; rfl) stands

/-- Nothing else stands there. -/
theorem Stands.eq_placed (stands : Stands u k veiled v j) (writes : Writes f) (written : j = f v) :
    k = placed f veiled u := by
  induction stands generalizing f with
  | here => exact written
  | item i inside own _ ih =>
    rw [writes.array] at written
    cases written
    rw [List.getElem?_map, inside] at own
    exact ih writes (Option.some.inj own).symm
  | field i inside own _ ih =>
    rw [writes.document] at written
    cases written
    rw [List.getElem?_map, inside] at own
    exact ih writes (congrArg Prod.snd (Option.some.inj own)).symm
  | scope i inside own _ ih =>
    rw [writes.scope] at written
    cases written
    rw [List.getElem?_map, inside] at own
    have form := ih writes_inScope (congrArg Prod.snd (Option.some.inj own)).symm
    rw [placed, ite_self] at form
    exact form

end places

end Bson

open Bson (Within Stands NonFinite)

namespace Codec

/-! ## Finding doubles -/

/-- An array has a form if each of its items has one. -/
theorem nonFiniteItem?_eq_none_iff {vs : List Value} :
    nonFiniteItem? vs = none ↔ ∀ v ∈ vs, nonFinite? v = none := by
  induction vs with
  | nil => simp [nonFiniteItem?]
  | cons v vs ih =>
    rw [nonFiniteItem?, List.forall_mem_cons, ← ih]
    cases nonFinite? v <;> simp

/-- A document has a form if each of its fields has one. -/
theorem nonFiniteField?_eq_none_iff {fields : Document} :
    nonFiniteField? fields = none ↔ ∀ f ∈ fields, nonFinite? f.2 = none := by
  induction fields with
  | nil => simp [nonFiniteField?]
  | cons f fields ih =>
    rw [nonFiniteField?, List.forall_mem_cons, ← ih]
    cases nonFinite? f.2 <;> simp

mutual

/-- What is found is such a double. -/
theorem nonFinite_of_nonFinite? {v : Value} {d : Double} (found : nonFinite? v = some d) :
    NonFinite d v := by
  cases v with
  | double e =>
    rw [nonFinite?] at found
    split at found
    · cases found
    · next endless =>
      cases found
      exact ⟨Bool.eq_false_iff.mpr endless, .here⟩
  | array items =>
    obtain ⟨v, member, endless, within⟩ := nonFinite_of_nonFiniteItem? found
    exact ⟨endless, .item member within⟩
  | document fields =>
    obtain ⟨f, member, endless, within⟩ := nonFinite_of_nonFiniteField? found
    exact ⟨endless, .field member within⟩
  | _ => cases found

/-- A double that is found in an array stands in one of its items. -/
theorem nonFinite_of_nonFiniteItem? {vs : List Value} {d : Double}
    (found : nonFiniteItem? vs = some d) : ∃ v ∈ vs, NonFinite d v := by
  cases vs with
  | nil => cases found
  | cons v vs =>
    rw [nonFiniteItem?] at found
    split at found
    · next now =>
      cases found
      exact ⟨v, List.mem_cons_self, nonFinite_of_nonFinite? now⟩
    · obtain ⟨u, member, endless⟩ := nonFinite_of_nonFiniteItem? found
      exact ⟨u, List.mem_cons_of_mem _ member, endless⟩

/-- A double that is found in a document stands in one of its fields. -/
theorem nonFinite_of_nonFiniteField? {fields : Document} {d : Double}
    (found : nonFiniteField? fields = some d) : ∃ f ∈ fields, NonFinite d f.2 := by
  cases fields with
  | nil => cases found
  | cons f fields =>
    obtain ⟨name, v⟩ := f
    rw [nonFiniteField?] at found
    split at found
    · next now =>
      cases found
      exact ⟨(name, v), List.mem_cons_self, nonFinite_of_nonFinite? now⟩
    · obtain ⟨u, member, endless⟩ := nonFinite_of_nonFiniteField? found
      exact ⟨u, List.mem_cons_of_mem _ member, endless⟩

end

/-- Where nothing is found, every double outside the scopes of code is a finite number. -/
theorem isFinite_of_within {d : Double} {v : Value} (within : Within (.double d) false v)
    (none : nonFinite? v = none) : d.isFinite = true := by
  generalize plain : false = veiled at within
  induction within with
  | here =>
    rw [nonFinite?] at none
    split at none
    · assumption
    · cases none
  | item member _ ih => exact ih (nonFiniteItem?_eq_none_iff.mp none _ member) plain
  | field member _ ih => exact ih (nonFiniteField?_eq_none_iff.mp none _ member) plain
  | scope => cases plain

/-- A double is found exactly if there is one to be found. -/
theorem nonFinite?_eq_none_iff {v : Value} : nonFinite? v = none ↔ ∀ d, ¬ NonFinite d v := by
  constructor
  · rintro none d ⟨endless, within⟩
    rw [isFinite_of_within within none] at endless
    cases endless
  · intro finite
    rcases found : nonFinite? v with _ | d
    · rfl
    · exact absurd (nonFinite_of_nonFinite? found) (finite d)

/-! ## Refusing -/

/-- The error about a double without a form. -/
def noForm (d : Double) : Error :=
  .codec ("non-finite double " ++ d.plainText false ++ " has no JSON form")

/-- The relaxed codec refuses the first double that it finds, and nothing else. -/
theorem validate_relaxed (v : Value) :
    relaxed.validate v = (nonFinite? v).elim (.ok ()) fun d => .error (noForm d) := by
  show validateFinite v = _
  unfold validateFinite
  cases nonFinite? v <;> rfl

/-- The relaxed codec writes the relaxed form of what it does not refuse. -/
theorem encode_relaxed (v : Value) :
    relaxed.encode v = (nonFinite? v).elim (.ok (Bson.relaxed v)) fun d => .error (noForm d) := by
  unfold relaxed
  dsimp only
  unfold validateFinite
  cases nonFinite? v <;> rfl

/-- A value without such a double is accepted. -/
theorem relaxed_accepts {v : Value} (finite : ∀ d, ¬ NonFinite d v) :
    relaxed.validate v = .ok () ∧ relaxed.encode v = .ok (Bson.relaxed v) := by
  rw [validate_relaxed, encode_relaxed, nonFinite?_eq_none_iff.mpr finite]
  exact ⟨rfl, rfl⟩

/-- A value with such a double is refused for one of them. -/
theorem relaxed_refuses {v : Value} (endless : ∃ d, NonFinite d v) : ∃ d, NonFinite d v
    ∧ relaxed.validate v = .error (noForm d) ∧ relaxed.encode v = .error (noForm d) := by
  rw [validate_relaxed, encode_relaxed]
  rcases found : nonFinite? v with _ | d
  · obtain ⟨d, endless⟩ := endless
    exact absurd endless (nonFinite?_eq_none_iff.mp found d)
  · exact ⟨d, nonFinite_of_nonFinite? found, rfl, rfl⟩

/-- What is accepted is written in the relaxed form. -/
theorem eq_of_encode {v : Value} {j : Json} (written : relaxed.encode v = .ok j) :
    (∀ d, ¬ NonFinite d v) ∧ j = Bson.relaxed v := by
  rw [encode_relaxed] at written
  rcases found : nonFinite? v with _ | d <;> rw [found] at written
  · exact ⟨nonFinite?_eq_none_iff.mp found, (Except.ok.inj written).symm⟩
  · cases written

/-- In what is written of a value, something stands for every double in it: outside the scopes of
code the double itself, a finite number, and inside them the double or, where it is no finite
number, null. -/
theorem doubles_of_encode {v : Value} {j : Json} (written : relaxed.encode v = .ok j) (d : Double)
    (veiled : Bool) : (Within (.double d) veiled v → ∃ k, Stands (.double d) k veiled v j)
      ∧ ∀ k, Stands (.double d) k veiled v j → (veiled = false → d.isFinite = true)
        ∧ k = if d.isFinite then .number (.double d) else .null := by
  obtain ⟨finite, rfl⟩ := eq_of_encode written
  refine ⟨fun within => ⟨_, within.stands Bson.writes_relaxed⟩, fun k stands => ?_⟩
  have plain (outside : veiled = false) : d.isFinite = true := by
    subst outside
    rcases endless : d.isFinite with _ | _
    · exact absurd ⟨endless, stands.within⟩ (finite d)
    · rfl
  refine ⟨plain, ?_⟩
  rw [stands.eq_placed Bson.writes_relaxed rfl]
  cases veiled with
  | true => rfl
  | false =>
    rw [plain rfl, if_pos rfl]
    show Bson.writeDouble d = _
    unfold Bson.writeDouble
    rw [plain rfl, if_pos rfl]

/-! ## Calls -/

/-- Whether a value of a call has a double, outside the scopes of code, that is no finite number. -/
def Unsendable (call : Call) : Prop := ∃ v ∈ call.values, ∃ d, NonFinite d v

/-- What becomes of a call, as far as such values go. -/
structure Screens (c : Connection) (call : Call) (route : Route) (w : World)
    (r : Except Halt Reply × World) : Prop where
  /-- With such a value it fails as a misuse and nothing happens to the world; unless the client has
  been closed, the failure names such a double. -/
  refused : Unsendable call → ∃ err, r = (.error (.failed err), w) ∧ err.kind = .usage
    ∧ (w.isClosed c.client = false → ∃ v ∈ call.values, ∃ d, NonFinite d v
      ∧ err = .usage call.name ("argument cannot be sent: " ++ (noForm d).message))
  /-- Without one, and on an open client, its envelope is posted, and nothing else. -/
  posted : ¬ Unsendable call → w.isClosed c.client = false → ∃ envelope,
    Envelope.ofCall relaxed call route = .ok envelope
      ∧ r.2.posted = w.posted ++ [c.request envelope]

/-- A call without an envelope has such a value. -/
theorem unsendable_of_ofCall {call : Call} {route : Route} {err : Error}
    (cannot : Envelope.ofCall relaxed call route = .error err) :
    ∃ v ∈ call.values, ∃ d, NonFinite d v
      ∧ err = .usage call.name ("argument cannot be sent: " ++ (noForm d).message) := by
  obtain ⟨fault, ⟨before, v, after, split, _, fails⟩, rfl⟩ := Envelope.ofCall_eq_error.mp cannot
  refine ⟨v, by simp [split], ?_⟩
  rw [encode_relaxed] at fails
  rcases found : nonFinite? v with _ | d <;> rw [found] at fails <;> cases fails
  exact ⟨d, nonFinite_of_nonFinite? found, rfl⟩

/-- A call with an envelope has none. -/
theorem not_unsendable_of_ofCall {call : Call} {route : Route} {envelope : Envelope}
    (made : Envelope.ofCall relaxed call route = .ok envelope) : ¬ Unsendable call := by
  rintro ⟨v, member, d, endless⟩
  obtain ⟨j, written⟩ := Envelope.exists_ofCall_iff.mp ⟨envelope, made⟩ v member
  exact (eq_of_encode written).1 d endless

/-- Every call is refused on the spot or posted, and that is decided by its values. -/
theorem screens_of_refused_or_sent {c : Connection} {call : Call} {route : Route} {w : World}
    {r : Except Halt Reply × World} (sender : Sender) (deadline : Nat → Nat)
    (codec : c.codec = relaxed)
    (outcome : (∃ err, c.Refuses call route w err ∧ r = (.error (.failed err), w))
      ∨ ∃ e w', c.Carries call route w e ∧ World.Sends sender deadline w [e] w' ∧ r.2 = w') :
    Screens c call route w r := by
  rcases outcome with ⟨err, refuses, rfl⟩ | ⟨e, w', carries, sends, after⟩
  · have tells (isOpen : w.isClosed c.client = false) : ∃ v ∈ call.values, ∃ d, NonFinite d v
        ∧ err = .usage call.name ("argument cannot be sent: " ++ (noForm d).message) := by
      rcases refuses with ⟨closed, _⟩ | ⟨_, cannot⟩
      · cases isOpen.symm.trans closed
      · exact unsendable_of_ofCall (codec ▸ cannot)
    refine ⟨fun _ => ⟨err, rfl, refuses.kind, tells⟩, fun sendable isOpen => ?_⟩
    obtain ⟨v, member, d, endless, _⟩ := tells isOpen
    exact absurd ⟨v, member, d, endless⟩ sendable
  · obtain ⟨envelope, made, request⟩ := carries.request
    rw [codec] at made
    refine ⟨fun unsendable => absurd unsendable (not_unsendable_of_ofCall made), fun _ _ => ?_⟩
    refine ⟨envelope, made, ?_⟩
    rw [after, sends.posted, List.map_singleton, request]

/-- A call with a double that is no finite number is refused before it is posted. -/
theorem screens_dispatch {c : Connection} (codec : c.codec = relaxed) (sender : Sender)
    (call : Call) (route : Route) (limits : Limits) (w : World) :
    Screens c call route w (c.dispatch sender call route limits w) := by
  refine screens_of_refused_or_sent sender (fun _ => limits.deadline) codec ?_
  rcases c.dispatch_refused_or_sent sender call route limits w
    with refused | ⟨e, w', carries, sends, result⟩
  · exact .inl refused
  · exact .inr ⟨e, w', carries, sends, by rw [result]⟩

/-- The same of a call that has a limited time to be answered. -/
theorem screens_dispatchWithin {c : Connection} (codec : c.codec = relaxed) (span : Nat)
    (sender : Sender) (call : Call) (route : Route) (limits : Limits) (w : World) :
    Screens c call route w (c.dispatchWithin span sender call route limits w) := by
  refine screens_of_refused_or_sent sender (fun now => min (now + span) limits.deadline) codec ?_
  rcases c.dispatchWithin_refused_or_sent span sender call route limits w
    with refused | ⟨e, w', carries, sends, result⟩
  · exact .inl refused
  · exact .inr ⟨e, w', carries, sends, by rw [result]⟩

/-- The relaxed codec refuses a value if and only if a double stands in it, at any depth of arrays
and documents but outside the scopes of code, that is no finite number, and a call with such a value
fails as a misuse and is not posted.  All else is accepted.  In what is written of an accepted
value, each double stands at its place as the number that it is; only in the scope of code may it be
no finite number, and then null stands there. -/
theorem non_finite_doubles_are_refused (v : Value) (c : Connection) (codec : c.codec = relaxed)
    (sender : Sender) (call : Call) (route : Route) (limits : Limits) (span : Nat) (w : World) :
    ((∃ d, NonFinite d v) → ∃ d, NonFinite d v
        ∧ relaxed.validate v = .error (noForm d) ∧ relaxed.encode v = .error (noForm d))
      ∧ ((∀ d, ¬ NonFinite d v) →
        relaxed.validate v = .ok () ∧ relaxed.encode v = .ok (Bson.relaxed v))
      ∧ (∀ j, relaxed.encode v = .ok j → ∀ d veiled,
        (Within (.double d) veiled v → ∃ k, Stands (.double d) k veiled v j)
          ∧ ∀ k, Stands (.double d) k veiled v j → (veiled = false → d.isFinite = true)
            ∧ k = if d.isFinite then .number (.double d) else .null)
      ∧ Screens c call route w (c.dispatch sender call route limits w)
      ∧ Screens c call route w (c.dispatchWithin span sender call route limits w) := by
  refine ⟨relaxed_refuses, relaxed_accepts, fun _ => doubles_of_encode, ?_, ?_⟩
  · exact screens_dispatch codec sender call route limits w
  · exact screens_dispatchWithin codec span sender call route limits w

/-- A double that is no number, in a document in an array. -/
theorem nested_nan_is_refused :
    let endpoint : Endpoint := ⟨⟨[], none, .bare [], none, none⟩, []⟩
    let connection : Connection := ⟨0, endpoint, .relaxed, 30000⟩
    let nested : Value := .array [.string "s", .document [("x", .double (Double.nan false))]]
    let w := World.start (.ofScript [])
    (∃ d, relaxed.encode nested = .error (noForm d))
      ∧ ∃ err, connection.dispatch none ⟨"insert_one", [nested], []⟩ .client ⟨10, none⟩ w
          = (.error (.failed err), w) ∧ err.kind = .usage := by
  intro endpoint connection nested w
  have field : Within (.double (Double.nan false)) false
      (.document [("x", .double (Double.nan false))]) := .field List.mem_cons_self .here
  have endless : NonFinite (Double.nan false) nested :=
    ⟨by decide, .item (List.mem_cons_of_mem _ List.mem_cons_self) field⟩
  obtain ⟨refuses, _, _, screens, _⟩ := non_finite_doubles_are_refused nested connection rfl none
    ⟨"insert_one", [nested], []⟩ .client ⟨10, none⟩ 0 w
  obtain ⟨d, _, _, refused⟩ := refuses ⟨_, endless⟩
  obtain ⟨err, fails, usage, _⟩ := screens.refused ⟨nested, by simp [Call.values], _, endless⟩
  exact ⟨⟨d, refused⟩, err, fails, usage⟩

/-- The same double in the scope of code is accepted, posted and replaced by null. -/
theorem nan_in_a_scope_is_replaced :
    let endpoint : Endpoint := ⟨⟨[], none, .bare [], none, none⟩, []⟩
    let connection : Connection := ⟨0, endpoint, .relaxed, 30000⟩
    let code : Value := .javaScriptCodeWithScope "f()" [("x", .double (Double.nan false))]
    let w := World.start (.ofScript [])
    (Double.nan false).isFinite = false ∧ Within (.double (Double.nan false)) true code
      ∧ relaxed.validate code = .ok ()
      ∧ relaxed.encode code
        = .ok (.object [("$code", .string "f()"), ("$scope", .object [("x", .null)])])
      ∧ (connection.dispatch none ⟨"insert_one", [code], []⟩ .client ⟨10, none⟩ w).2.posted.length
        = 1 := by
  intro endpoint connection code w
  exact ⟨by decide, .scope List.mem_cons_self .here, rfl, rfl, rfl⟩

end Codec

end RemoteDriver
