import Mathlib.Data.List.Forall2
import RemoteDriver.Proofs.Number.Double
import RemoteDriver.Proofs.Surface.Kinds
import RemoteDriver.Proofs.Wire.Envelope

/-!
# Counts

Seven helpers of a collection bring counts, which stand at fixed places of their replies
(`Command.counts?`): the whole reply is a count, or fields of a document are, an absent field being
zero.  A count comes as an integer of 32 or 64 bits or as a double.

What is read at a place is the number that stands there, without rounding and without wrapping
around, as long as it is at most the largest that 64 bits with a sign hold; a double beyond that
number is read as that number (`Counted`).  Whatever is no whole number, is negative or is of
another type makes the reply an error of the response, which names the operation.

The main statement, `Collection.counts_what_is_told`, says so of all seven helpers and of every
reply to them.
-/

namespace RemoteDriver

open Bson (Document Value)
open RemoteDriver.Action

/-! ## The numbers that values are -/

/-- The number that a value is, if it is of one of the three types that counts come in; infinities
and what is no number are none. -/
def Bson.Value.number? : Value → Option ℚ
  | .int32 n => some n.toInt
  | .int64 n => some n.toInt
  | .double d => if d.isFinite then some d.value else none
  | _ => none

/-- The count that a value stands for. -/
inductive Counted : Value → Nat → Prop
  /-- It is the number of the value. -/
  | exact {v : Value} {n : Nat} (number : v.number? = some (n : ℚ))
      (held : n ≤ 9223372036854775807) : Counted v n
  /-- It is the largest number of 64 bits with a sign, for a double beyond it. -/
  | beyond {d : Double} {n : Nat} (number : (Value.double d).number? = some (n : ℚ))
      (large : 9223372036854775807 < n) : Counted (.double d) 9223372036854775807

namespace Expected

/-- A number of 64 bits stays as it is. -/
theorem clamped_eq {m : Int} (low : -9223372036854775808 ≤ m) (high : m ≤ 9223372036854775807) :
    clamped m = m := by
  unfold clamped Number.minInt64 Number.maxInt64
  rw [if_neg (by omega), if_neg (by omega)]

/-- A number beyond the largest becomes the largest. -/
theorem clamped_of_large {m : Int} (large : 9223372036854775807 < m) :
    clamped m = 9223372036854775807 := by
  unfold clamped Number.minInt64 Number.maxInt64
  rw [if_neg (by omega), if_pos large]

/-- An integer of 32 bits stays as it is. -/
theorem clamped_int32 (n : Int32) : clamped n.toInt = n.toInt := by
  have low := n.le_toInt
  have high := n.toInt_lt
  exact clamped_eq (by omega) (by omega)

/-- An integer of 64 bits stays as it is. -/
theorem clamped_int64 (n : Int64) : clamped n.toInt = n.toInt := by
  have low := n.le_toInt
  have high := n.toInt_lt
  exact clamped_eq (by omega) (by omega)

/-- What is read of a value is its number, brought into 64 bits. -/
theorem whole?_eq_some_iff {v : Value} {k : Int} :
    whole? v = some k ↔ ∃ m : Int, v.number? = some (m : ℚ) ∧ clamped m = k := by
  cases v with
  | int32 n => simp [whole?, Value.number?, clamped_int32]
  | int64 n => simp [whole?, Value.number?, clamped_int64]
  | double d => simp [whole?, Value.number?, Double.toInt?_eq_some_iff, and_assoc]
  | _ => simp [whole?, Value.number?]

/-- Only doubles are beyond 64 bits. -/
theorem exists_double_of_large {v : Value} {m : Int} (number : v.number? = some (m : ℚ))
    (large : 9223372036854775807 < m) : ∃ d, v = .double d := by
  cases v with
  | int32 n =>
    have high := n.toInt_lt
    have same : n.toInt = m := by exact_mod_cast Option.some.inj number
    omega
  | int64 n =>
    have high := n.toInt_lt
    have same : n.toInt = m := by exact_mod_cast Option.some.inj number
    omega
  | double d => exact ⟨d, rfl⟩
  | _ => cases number

/-- A count is a number that is not negative once it is brought into 64 bits. -/
theorem count_eq_ok_iff_clamped {operation : String} {v : Value} {n : Nat} :
    count operation v = .ok n ↔ ∃ m : Int, v.number? = some (m : ℚ) ∧ clamped m = n := by
  have read : count operation v = .ok n ↔ whole? v = some (n : Int) := by
    unfold count
    rcases whole? v with _ | k
    · simp
    · dsimp only
      split
      · simp only [Except.ok.injEq, Option.some.injEq]
        omega
      · simp only [reduceCtorEq, Option.some.injEq, false_iff]
        omega
  rw [read, whole?_eq_some_iff]

/-- A count is read of a value exactly where the value stands for it. -/
theorem count_eq_ok_iff {operation : String} {v : Value} {n : Nat} :
    count operation v = .ok n ↔ Counted v n := by
  rw [count_eq_ok_iff_clamped]
  constructor
  · rintro ⟨m, number, same⟩
    by_cases large : 9223372036854775807 < m
    · obtain ⟨d, rfl⟩ := exists_double_of_large number large
      obtain ⟨big, rfl⟩ := Int.eq_ofNat_of_zero_le (show 0 ≤ m by omega)
      rw [clamped_of_large large] at same
      obtain rfl : 9223372036854775807 = n := by omega
      exact .beyond number (by omega)
    · have low : -9223372036854775808 ≤ m := by
        unfold clamped Number.minInt64 at same
        split at same <;> omega
      rw [clamped_eq low (by omega)] at same
      subst same
      exact .exact number (by omega)
  · rintro (⟨number, held⟩ | ⟨number, large⟩)
    · exact ⟨n, number, clamped_eq (by omega) (by omega)⟩
    · exact ⟨_, number, clamped_of_large (by omega)⟩

end Expected

/-! ## Places of counts -/

/-- A place of a reply where a count stands. -/
inductive CountPlace
  /-- The whole value. -/
  | whole
  /-- A field of a document. -/
  | field (name : String)

namespace CountPlace

/-- What a value tells at a place. -/
inductive Tells : CountPlace → Value → Nat → Prop
  /-- The count that it stands for. -/
  | whole {v : Value} {n : Nat} (counted : Counted v n) : Tells .whole v n
  /-- The count that a field of a document stands for. -/
  | field {name : String} {result : Document} {v : Value} {n : Nat}
      (there : result.lookup name = some v) (counted : Counted v n) :
      Tells (.field name) (.document result) n
  /-- Nothing, where the field is absent. -/
  | absent {name : String} {result : Document} (missing : result.lookup name = none) :
      Tells (.field name) (.document result) 0

/-- What is read at a place of the value that an operation brings. -/
def read (operation : String) (v : Value) : CountPlace → Except Error Nat
  | .whole => Expected.count operation v
  | .field name => do Expected.countField operation (← Expected.document operation v) name

section read

variable {operation : String} {v : Value} {place : CountPlace}

/-- What is read is what is told. -/
theorem read_eq_ok_iff {n : Nat} : place.read operation v = .ok n ↔ place.Tells v n := by
  constructor
  · intro read
    cases place with
    | whole => exact .whole (Expected.count_eq_ok_iff.mp read)
    | field name =>
      cases v with
      | document result =>
        change Expected.countField operation result name = .ok n at read
        unfold Expected.countField at read
        split at read
        · next there => exact .field there (Expected.count_eq_ok_iff.mp read)
        · next missing =>
          cases read
          exact .absent missing
      | _ => cases read
  · rintro (counted | ⟨there, counted⟩ | missing)
    · exact Expected.count_eq_ok_iff.mpr counted
    · show Expected.countField operation _ _ = _
      unfold Expected.countField
      rw [there]
      exact Expected.count_eq_ok_iff.mpr counted
    · show Expected.countField operation _ _ = _
      unfold Expected.countField
      rw [missing]

/-- Where nothing is told, the value is misread. -/
theorem isMisread_of_read {err : Error} (fails : place.read operation v = .error err) :
    err.IsMisread operation := by
  cases place with
  | whole => exact Expected.isMisread_of_count fails
  | field name =>
    unfold read at fails
    rcases taken : Expected.document operation v with e | result
    · rw [taken] at fails
      cases fails
      exact Expected.isMisread_of_document taken
    · rw [taken] at fails
      exact Expected.isMisread_of_countField fails

end read

end CountPlace

/-- The counts that a reply tells at places, in order. -/
def Reply.Tells (reply : Reply) (places : List CountPlace) (counts : List Nat) : Prop :=
  ∃ v, reply = .value v ∧ List.Forall₂ (·.Tells v) places counts

/-- What is read at places of the reply to an operation. -/
def Reply.readAt (reply : Reply) (operation : String) (places : List CountPlace) :
    Except Error (List Nat) := do
  let v ← reply.toValue operation
  places.mapM (CountPlace.read operation v)

namespace Reply

section readAt

variable {reply : Reply} {operation : String} {places : List CountPlace}

/-- What is read is what is told. -/
theorem readAt_eq_ok_iff {counts : List Nat} :
    reply.readAt operation places = .ok counts ↔ reply.Tells places counts := by
  cases reply with
  | value v =>
    show places.mapM (CountPlace.read operation v) = .ok counts ↔ _
    rw [mapM_eq_ok]
    simp [Tells, CountPlace.read_eq_ok_iff]
  | cursor seed | stream seed => exact ⟨nofun, nofun⟩

/-- Where nothing is told, the reply is misread. -/
theorem isMisread_of_readAt {err : Error} (fails : reply.readAt operation places = .error err) :
    err.IsMisread operation := by
  cases reply with
  | value v =>
    obtain ⟨_, place, _, -, -, fails⟩ := mapM_eq_error.mp fails
    exact CountPlace.isMisread_of_read fails
  | cursor seed | stream seed =>
    cases fails
    exact ⟨_, rfl⟩

end readAt

end Reply

/-! ## Helpers that count -/

/-- The operation of a helper that counts and the places of its counts. -/
def Command.counts? : Command → Option (String × List CountPlace)
  | .countDocuments _ => some ("count_documents", [.whole])
  | .estimatedDocumentCount => some ("estimated_document_count", [.whole])
  | .updateOne _ _ _ => some ("update_one", [.field "matched_count", .field "modified_count"])
  | .updateMany _ _ _ => some ("update_many", [.field "matched_count", .field "modified_count"])
  | .replaceOne _ _ => some ("replace_one", [.field "matched_count", .field "modified_count"])
  | .deleteOne _ => some ("delete_one", [.field "deleted_count"])
  | .deleteMany _ => some ("delete_many", [.field "deleted_count"])
  | _ => none

/-- The counts of a result, in order. -/
def Result.counts : Result → List Nat
  | .counted n => [n]
  | .updated r => [r.matchedCount, r.modifiedCount]
  | .deleted n => [n]
  | _ => []

/-- How a helper that counts takes the replies to its call. -/
structure CountsAsTold (g : Gateway) (command : Command) (helper : Action Result) (call : Call)
    (places : List CountPlace) : Prop where
  /-- This is the call that the command comes down to. -/
  made : g.call? command = some call
  /-- It brings counts exactly where the reply tells them, and these counts. -/
  tells : ∀ limits w reply, Answered g call limits w reply → ∀ counts,
    (∃ r, (helper limits w).1 = .ok r ∧ r.counts = counts) ↔ reply.Tells places counts
  /-- Every other reply is misread, as a reply to this operation. -/
  refuses : ∀ limits w reply, Answered g call limits w reply →
    (∀ counts, ¬ reply.Tells places counts) →
    ∃ reason, (helper limits w).1 = .error (.failed (.protocol call.name reason))

/-! ## Reading -/

/-- A result is read off the reply to a call. -/
def ReadsOff {α : Type} (g : Gateway) (t : Action α) (call : Call)
    (read : Reply → Except Error α) : Prop :=
  t = (do ofExcept (read (← g.forward call.name call.args call.kwargs)))

section readsOff

variable {α β : Type} {g : Gateway} {t : Action α} {call : Call} {read : Reply → Except Error α}

/-- What is read of a result is read off the reply. -/
theorem ReadsOff.andThen (h : ReadsOff g t call read) (f : α → Except Error β) :
    ReadsOff g (do ofExcept (f (← t))) call fun reply => read reply >>= f := by
  unfold ReadsOff at h ⊢
  rw [h, bind_assoc]
  congr 1
  funext reply
  dsimp only
  rcases read reply with e | a
  · rfl
  · rw [bind_ofExcept_ok]
    rfl

/-- So is a result that is put into other words. -/
theorem ReadsOff.return (h : ReadsOff g t call read) (f : α → β) :
    ReadsOff g (do return f (← t)) call fun reply => (read reply).map f := by
  unfold ReadsOff at h ⊢
  rw [h, bind_assoc]
  congr 1
  funext reply
  dsimp only
  rcases read reply with e | a
  · rfl
  · rw [bind_ofExcept_ok]
    rfl

/-- What is read of the reply of an answered call. -/
theorem ReadsOff.answered {shape : Shape} {overrides : List String} {limits : Limits} {w : World}
    {reply : Reply} (h : ReadsOff g t call read) (serves : shape.Serves overrides g)
    (fits : shape.Fits call) (answered : Answered g call limits w reply) :
    (t limits w).1 = (read reply).mapError Halt.failed := by
  obtain ⟨w', came⟩ := answered.dispatch
  rw [h, bind_eq_resumed, Gateway.forward_of_fits serves fits, came]
  show (ofExcept (read reply) limits w').1 = _
  rcases read reply with e | a <;> rfl

end readsOff

/-- A helper whose counts are those that are read at the places of the reply. -/
theorem Prepares.countsAsTold {shape : Shape} {overrides : List String} {g : Gateway}
    {command : Command} {helper : Action Result} {call : Call} {places : List CountPlace}
    {read : Reply → Except Error Result} (prepares : Prepares shape overrides g command helper call)
    (serves : shape.Serves overrides g) (reads : ReadsOff g helper call read)
    (same : ∀ reply, (read reply).map Result.counts = reply.readAt call.name places) :
    CountsAsTold g command helper call places := by
  refine ⟨prepares.made, fun limits w reply answered counts => ?_,
    fun limits w reply answered silent => ?_⟩
  · rw [reads.answered serves prepares.served.1 answered, ← Reply.readAt_eq_ok_iff, ← same]
    rcases read reply with e | r <;> simp [Except.mapError, Except.map]
  · rw [reads.answered serves prepares.served.1 answered]
    rcases taken : read reply with e | r
    · have fails := same reply
      rw [taken] at fails
      obtain ⟨reason, rfl⟩ := Reply.isMisread_of_readAt fails.symm
      exact ⟨reason, rfl⟩
    · have tells := same reply
      rw [taken] at tells
      exact absurd (Reply.readAt_eq_ok_iff.mp tells.symm) (silent _)

namespace Gateway

/-- A value is read off the reply. -/
theorem value_readsOff (g : Gateway) (name : String) (args : List Value) (kwargs : Document) :
    ReadsOff g (g.value name args kwargs) ⟨name, args, kwargs⟩ (·.toValue name) := rfl

end Gateway

namespace Collection

variable (c : Collection)

/-- A count is read off the value that is brought. -/
theorem count_readsOff (operation : String) (args : List Value) :
    ReadsOff c.gateway
      (do ofExcept (Expected.count operation (← c.gateway.value operation args [])))
      ⟨operation, args, []⟩ fun reply => reply.toValue operation >>= Expected.count operation :=
  (c.gateway.value_readsOff operation args []).andThen (Expected.count operation)

/-- A document is read off the value that is brought. -/
theorem result_readsOff (operation : String) (args : List Value) (kwargs : Document) :
    ReadsOff c.gateway (c.result operation args kwargs) ⟨operation, args, kwargs⟩
      fun reply => reply.toValue operation >>= Expected.document operation :=
  (c.gateway.value_readsOff operation args kwargs).andThen (Expected.document operation)

/-- The counts of an update are read off the document that is brought. -/
theorem update_readsOff (operation : String) (filter update : Document)
    (options : UpdateOptions) : ReadsOff c.gateway (c.update operation filter update options)
      ⟨operation, [.document filter, .document update], options.toKwargs⟩
      fun reply => reply.toValue operation >>= Expected.document operation
        >>= updateResult operation :=
  (c.result_readsOff operation _ _).andThen (updateResult operation)

/-- The count of a deletion is read off its field, which may be missing. -/
theorem delete_readsOff (operation : String) (filter : Document) :
    ReadsOff c.gateway (c.delete operation filter) ⟨operation, [.document filter], []⟩
      fun reply => reply.toValue operation >>= Expected.document operation
        >>= (Expected.countField operation · "deleted_count") :=
  (c.result_readsOff operation _ _).andThen (Expected.countField operation · "deleted_count")

/-- The counts of an update are read at their fields. -/
theorem counts_updateResult (operation : String) (reply : Reply) :
    ((reply.toValue operation >>= Expected.document operation >>= updateResult operation).map
        Result.updated).map Result.counts
      = reply.readAt operation [.field "matched_count", .field "modified_count"] := by
  unfold Reply.readAt
  rcases reply.toValue operation with e | v
  · rfl
  · simp only [bind, Except.bind, mapM_cons_eq, CountPlace.read, List.mapM_nil]
    rcases Expected.document operation v with e | result
    · rfl
    · dsimp only [updateResult, bind, Except.bind]
      rcases Expected.countField operation result "matched_count" with e | n
      · rfl
      · rcases Expected.countField operation result "modified_count" with e | m <;> rfl

/-- So is the count of a deletion. -/
theorem counts_deleted (operation : String) (reply : Reply) :
    ((reply.toValue operation >>= Expected.document operation
        >>= (Expected.countField operation · "deleted_count")).map Result.deleted).map Result.counts
      = reply.readAt operation [.field "deleted_count"] := by
  unfold Reply.readAt
  rcases reply.toValue operation with e | v
  · rfl
  · simp only [bind, Except.bind, mapM_cons_eq, CountPlace.read, List.mapM_nil]
    rcases Expected.document operation v with e | result
    · rfl
    · dsimp only
      rcases Expected.countField operation result "deleted_count" with e | n <;> rfl

/-- A count is read of the whole reply. -/
theorem counts_counted (operation : String) (reply : Reply) :
    ((reply.toValue operation >>= Expected.count operation).map Result.counted).map Result.counts
      = reply.readAt operation [.whole] := by
  unfold Reply.readAt
  rcases reply.toValue operation with e | v
  · rfl
  · simp only [bind, Except.bind, mapM_cons_eq, CountPlace.read, List.mapM_nil]
    rcases Expected.count operation v with e | n <;> rfl

/-- Every helper that counts, whatever reply it gets: its counts are the numbers that stand at their
places of the reply, a double beyond 64 bits with a sign being read as the largest such number, and
a reply without such numbers is an error of the response to the operation. -/
theorem counts_what_is_told {command : Command} {operation : String} {places : List CountPlace}
    (counts : command.counts? = some (operation, places)) :
    ∃ helper call, c.own? command = some helper ∧ call.name = operation
      ∧ CountsAsTold c.gateway command helper call places := by
  have known : ∃ helper, c.own? command = some helper := by
    cases command <;> first | exact ⟨_, rfl⟩ | cases counts
  have helps : command.IsHelper ∧ command.Acceptable := by
    cases command <;> first | exact ⟨trivial, trivial⟩ | cases counts
  obtain ⟨helper, known⟩ := known
  obtain ⟨call, prepares⟩ := c.prepares known helps.1 helps.2
  refine ⟨helper, call, known, ?_⟩
  have made := prepares.made
  cases command <;> simp only [Command.counts?, Option.some.injEq, Prod.mk.injEq, reduceCtorEq]
    at counts <;> obtain ⟨rfl, rfl⟩ := counts <;> simp only [own?, Option.some.injEq] at known <;>
    subst known <;> cases made
  case countDocuments | estimatedDocumentCount =>
    refine ⟨rfl, prepares.countsAsTold c.serves ?_ (counts_counted _)⟩
    exact (c.count_readsOff _ _).return _
  case updateOne | updateMany | replaceOne =>
    refine ⟨rfl, prepares.countsAsTold c.serves ?_ (counts_updateResult _)⟩
    exact (c.update_readsOff _ _ _ _).return _
  case deleteOne | deleteMany =>
    refine ⟨rfl, prepares.countsAsTold c.serves ?_ (counts_deleted _)⟩
    exact (c.delete_readsOff _ _).return _

end Collection

/-- The remote side of one value as the answer to an operation. -/
def Remote.bringing (operation : String) (payload : Json) : Remote :=
  .ofScript [(operation, ⟨some (.body (.object [("kind", .string "value"), ("payload", payload)])),
    0⟩)]

/-- A collection of a database of a client without a key. -/
def Collection.sample : Collection :=
  ⟨⟨⟨⟨0, ⟨⟨[], none, .bare [], none, none⟩, []⟩, .relaxed, 30000⟩, .standard⟩, "app", 0⟩, "items"⟩

/-- The number of a double that is read as a whole number. -/
theorem number?_of_toInt? {d : Double} {n : Int} (whole : d.toInt? = some n) :
    (Value.double d).number? = some (n : ℚ) := by
  obtain ⟨finite, value⟩ := (d.toInt?_eq_some_iff n).mp whole
  rw [Value.number?, if_pos finite, value]

/-- A double that is whole counts, and an absent field is zero. -/
theorem two_matched_none_modified :
    ∃ helper, Collection.sample.own? (.updateOne [] [] []) = some helper
      ∧ ∃ r, (helper ⟨0, none⟩ (.start (.bringing "update_one"
          (.object [("matched_count", .number (.double (Double.ofInt 2)))])))).1 = .ok r
        ∧ r.counts = [2, 0] := by
  have counts : Command.counts? (.updateOne [] [] [])
    = some ("update_one", [.field "matched_count", .field "modified_count"]) := rfl
  obtain ⟨helper, call, known, _, asTold⟩ := Collection.sample.counts_what_is_told counts
  have made := asTold.made
  cases made
  have two : Counted (.double (Double.ofInt 2)) 2 :=
    .exact (number?_of_toInt? (by decide)) (by decide)
  have tells := (asTold.tells ⟨0, none⟩ (.start (.bringing "update_one"
    (.object [("matched_count", .number (.double (Double.ofInt 2)))])))
    (.value (.document [("matched_count", .double (Double.ofInt 2))]))
    ⟨rfl, ⟨[.object [], .object []], [], rfl, rfl⟩, _, _, rfl, by decide, rfl⟩ [2, 0]).mpr
    ⟨_, rfl, .cons (.field rfl two) (.cons (.absent rfl) .nil)⟩
  exact ⟨helper, known, tells⟩

/-- A double beyond 64 bits is counted as another number. -/
theorem large_count_is_clamped :
    let large := Double.ofInt 10000000000000000000
    let w := World.start (.bringing "count_documents" (.number (.double large)))
    (Value.double large).number? = some 10000000000000000000
      ∧ ∃ helper, Collection.sample.own? (.countDocuments none) = some helper
        ∧ (helper ⟨0, none⟩ w).1 = .ok (.counted 9223372036854775807) := by
  intro large w
  have number : (Value.double large).number? = some ((10000000000000000000 : Nat) : ℚ) := by
    exact_mod_cast number?_of_toInt? (n := 10000000000000000000) (by decide)
  let c := Collection.sample
  have known : c.own? (.countDocuments none)
      = some (do return .counted (← c.countDocuments none)) := rfl
  obtain ⟨call, prepares⟩ := c.prepares known trivial trivial
  have made := prepares.made
  cases made
  have reads := (c.count_readsOff "count_documents" [.document []]).return Result.counted
  have answered : Answered c.gateway ⟨"count_documents", [.document []], []⟩ ⟨0, none⟩ w
      (.value (.double large)) :=
    ⟨rfl, ⟨[.object []], [], rfl, rfl⟩, _, _, rfl, by decide, rfl⟩
  have counted : Expected.count "count_documents" (.double large) = .ok 9223372036854775807 :=
    Expected.count_eq_ok_iff.mpr (.beyond number (by decide))
  refine ⟨by exact_mod_cast number, _, known, ?_⟩
  refine (reads.answered c.serves prepares.served.1 answered).trans ?_
  show ((Expected.count "count_documents" (.double large)).map _).mapError _ = _
  rw [counted]
  rfl

end RemoteDriver
