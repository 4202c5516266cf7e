import RemoteDriver.Proofs.Failure.Services

/-!
# What handles bring

Handles lead to handles: a client makes databases and other clients, a database leads to collections
and back to its client, and a reply opens a cursor or a change stream.  `Handle.Issues` lists all
that a command to a handle can bring, and what is new about it: a number that has not been in use.

Computations that enter no database into the world and give every number away at most once are
closed under the ways of putting computations together (`Action.Brings`); what calls through a
gateway bring follows from that.
-/

namespace RemoteDriver

open Bson (Document Value)
open RemoteDriver.Action

/-! ## Worlds -/

namespace World

/-- Between two worlds no database was handed out, and numbers were given away only once. -/
structure Retains (w w' : World) : Prop where
  /-- The databases are the same. -/
  databases : w'.databases = w.databases
  /-- Numbers are not taken back. -/
  next_le : w.next ≤ w'.next

/-- A number was given away between two worlds. -/
def Gave (w w' : World) (n : Nat) : Prop := w.next ≤ n ∧ n < w'.next

variable {w v v' w' w'' : World} {n : Nat}

/-- A world is as it was as long as nothing is done. -/
theorem Retains.refl (w : World) : Retains w w := ⟨rfl, Nat.le_refl _⟩

/-- What two stretches retain is retained over both. -/
theorem Retains.trans (first : Retains w w') (second : Retains w' w'') : Retains w w'' :=
  ⟨second.databases.trans first.databases, Nat.le_trans first.next_le second.next_le⟩

/-- Where the databases and the count stay, a world is retained, whatever else is done to it. -/
theorem Retains.of_eq (databases : w'.databases = w.databases) (next : w'.next = w.next) :
    Retains w w' :=
  ⟨databases, Nat.le_of_eq next.symm⟩

/-- Exchanges touch neither the databases nor the count. -/
theorem Sends.retains {sender : Sender} {deadline : Nat → Nat} {es : List Exchange}
    (sends : Sends sender deadline w es w') : Retains w w' := by
  obtain ⟨remote, now, same⟩ := sends.changes
  rw [same]
  exact .of_eq rfl rfl

/-- A signal that fires touches neither the databases nor the count. -/
theorem retains_fire (w : World) (subscription : Nat) : Retains w (w.fire subscription) := by
  unfold fire
  split <;> exact .of_eq rfl rfl

/-- A client that is closed stays in the world with its databases. -/
theorem retains_close (w : World) (client : Nat) : Retains w (w.close client) := by
  unfold close
  split <;> exact .of_eq rfl rfl

/-- What was given away in the course of something was given away. -/
theorem Gave.within (gave : Gave v v' n) (before : w.next ≤ v.next) (after : v'.next ≤ w'.next) :
    Gave w w' n :=
  ⟨Nat.le_trans before gave.1, Nat.lt_of_lt_of_le gave.2 after⟩

end World

open World (Sends Retains Gave)

/-! ## What is brought -/

/-- The number of a handle that keeps a state of its own; a close signal has that of its change
stream. -/
def Handle.number? : Handle → Option Nat
  | cursor c => some c.serial
  | changeStream s => some s.serial
  | closeSignal subscription => some subscription
  | _ => none

/-- What a command to a handle can bring, if it takes the world `w` to `w'`. -/
inductive Handle.Issues (h : Handle) (command : Command) (w w' : World) : Handle → Prop
  /-- The handle once more, if it keeps no state. -/
  | again (stateless : h.number? = none) : Issues h command w w' h
  /-- The client of a database. -/
  | owner (d : Database) (maker : h = .database d) : Issues h command w w' (.client d.owner)
  /-- The database of a collection. -/
  | parent (c : Collection) (maker : h = .collection c) :
    Issues h command w w' (.database c.database)
  /-- A collection of a database. -/
  | collection (d : Database) (name : String) (maker : h = .database d) :
    Issues h command w w' (.collection ⟨d, name⟩)
  /-- The close signal of a change stream. -/
  | signal (s : ChangeStream) (maker : h = .changeStream s) :
    Issues h command w w' (.closeSignal s.serial)
  /-- A database of a client, as it stands in the world. -/
  | database (c : Client) (name : String) (serial : Nat) (maker : h = .client c)
    (entered : w'.databases.lookup (c.databaseKey name) = some serial) :
    Issues h command w w' (.database ⟨c, name, serial⟩)
  /-- Another client, with a new number. -/
  | client (c c' : Client) (setup : Setup) (maker : h = .client c)
    (asked : command = .newClient setup) (made : setup.client c'.connection.client = .ok c')
    (gave : Gave w w' c'.connection.client) : Issues h command w w' (.client c')
  /-- A cursor with a new number, which was opened here. -/
  | cursor (g : Gateway) (serial : Nat) (seed : CursorSeed) (maker : h.gateway? = some g)
    (gave : Gave w w' serial) :
    Issues h command w w' (.cursor (.ofSeed g.connection g.route serial seed))
  /-- A change stream with a new number, which was opened here. -/
  | stream (g : Gateway) (serial : Nat) (seed : StreamSeed) (maker : h.gateway? = some g)
    (gave : Gave w w' serial) :
    Issues h command w w' (.changeStream (.ofSeed g.connection g.route serial seed))

/-- What a command can bring in the course of something it can bring by all of it. -/
theorem Handle.Issues.within {h h' : Handle} {command : Command} {w v v' w' : World}
    (issues : h.Issues command v v' h') (before : w.next ≤ v.next) (after : Retains v' w') :
    h.Issues command w w' h' := by
  cases issues with
  | again stateless => exact .again stateless
  | owner d maker => exact .owner d maker
  | parent c maker => exact .parent c maker
  | collection d name maker => exact .collection d name maker
  | signal s maker => exact .signal s maker
  | database c name serial maker entered =>
    exact .database c name serial maker (after.databases ▸ entered)
  | client c c' setup maker asked made gave =>
    exact .client c c' setup maker asked made (gave.within before after.next_le)
  | cursor g serial seed maker gave =>
    exact .cursor g serial seed maker (gave.within before after.next_le)
  | stream g serial seed maker gave =>
    exact .stream g serial seed maker (gave.within before after.next_le)

/-- A result holds nothing but what a command can bring. -/
def Handle.Delivers (h : Handle) (command : Command) (w w' : World) (h? : Option Handle) : Prop :=
  ∀ h', h? = some h' → h.Issues command w w' h'

/-- A result without a handle holds nothing that could not be brought. -/
theorem Handle.delivers_none (h : Handle) (command : Command) (w w' : World) :
    h.Delivers command w w' none := by
  rintro _ ⟨⟩

/-- What can be brought is delivered as a result. -/
theorem Handle.Issues.delivers {h h' : Handle} {command : Command} {w w' : World}
    (issues : h.Issues command w w' h') : h.Delivers command w w' (some h') := by
  rintro _ ⟨rfl⟩
  exact issues

/-- A kind that was asked for does not change what an outcome holds. -/
theorem Handle.Delivers.ofOutcome {h : Handle} {command : Command} {w w' : World} {o : Outcome}
    (delivers : h.Delivers command w w' o.handle?) (into : Option Outcome.Kind) :
    h.Delivers command w w' (Result.ofOutcome o into).handle? := by
  cases into with
  | none => exact delivers
  | some kind =>
    show h.Delivers command w w' (Result.converted (if o.kind = kind then some o else none)).handle?
    split
    · exact delivers
    · exact h.delivers_none command w w'

/-- What a handle has become is the same handle, apart from what is still to come of it. -/
def Handle.Becomes : Handle → Handle → Prop
  | cursor c, cursor c' =>
    c'.connection = c.connection ∧ c'.origin = c.origin ∧ c'.serial = c.serial
  | changeStream s, changeStream s' =>
    s'.connection = s.connection ∧ s'.origin = s.origin ∧ s'.serial = s.serial
  | h, h' => h' = h

/-- A handle that is left alone is the same handle. -/
theorem Handle.becomes_self (h : Handle) : h.Becomes h := by
  cases h with
  | cursor c => exact ⟨rfl, rfl, rfl⟩
  | changeStream s => exact ⟨rfl, rfl, rfl⟩
  | client | database | collection | closeSignal => rfl

/-! ## Computations that enter no database -/

namespace Action

variable {α β : Type}

/-- A computation enters no database, and its result is such as `Q` tells of the worlds before and
after it. -/
def Brings (Q : World → World → α → Prop) (t : Action α) : Prop :=
  ∀ limits w, Retains w (t limits w).2 ∧ ∀ a, (t limits w).1 = .ok a → Q w (t limits w).2 a

/-- A computation enters no database, whatever its result. -/
abbrev Retaining (t : Action α) : Prop := Brings (fun _ _ _ => True) t

variable {Q : World → World → α → Prop} {Q' : World → World → β → Prop}

/-- What is there already is brought if `Q` holds of it with nothing between. -/
theorem brings_pure {a : α} (holds : ∀ w, Q w w a) : Brings Q (pure a : Action α) := by
  refine fun limits w => ⟨.refl w, ?_⟩
  rintro _ ⟨rfl⟩
  exact holds w

/-- A failure brings nothing, so nothing is asked of it. -/
theorem brings_fail (e : Error) : Brings Q (fail e : Action α) := by
  refine fun limits w => ⟨.refl w, ?_⟩
  rintro _ ⟨⟩

/-- What is known from the start is brought, or the failure that stands for it. -/
theorem brings_ofExcept {r : Except Error α} (holds : ∀ w a, r = .ok a → Q w w a) :
    Brings Q (ofExcept r) := by
  rcases r with e | a
  · exact brings_fail e
  · exact brings_pure fun w => holds w a rfl

/-- What is known from the start does nothing to the world. -/
theorem retaining_ofExcept (r : Except Error α) : Retaining (ofExcept r) :=
  brings_ofExcept fun _ _ _ => trivial

/-- A new number was given away just now. -/
theorem brings_fresh : Brings Gave fresh := by
  refine fun limits w => ⟨⟨rfl, Nat.le_succ _⟩, ?_⟩
  rintro _ ⟨rfl⟩
  exact ⟨Nat.le_refl _, Nat.lt_succ_self _⟩

/-- Looking at the world leaves it as it is. -/
theorem retaining_look (f : World → α) : Retaining (look f) :=
  fun _ w => ⟨.refl w, fun _ _ => trivial⟩

/-- A change retains what each of its worlds retains. -/
theorem retaining_change {f : World → World} (retains : ∀ w, Retains w (f w)) :
    Retaining (change f) :=
  fun _ w => ⟨retains w, fun _ _ => trivial⟩

/-- A computation and what follows, which may be told what the first one was like. -/
theorem brings_bind {t : Action α} {f : α → Action β} (first : Brings Q t)
    (next : ∀ a, Brings (fun v w' b => ∀ w, Retains w v → Q w v a → Q' w w' b) (f a)) :
    Brings Q' (t >>= f) := by
  intro limits w
  rw [bind_eq_resumed]
  obtain ⟨retains, holds⟩ := first limits w
  rcases came : (t limits w).1 with h | a
  · refine ⟨retains, ?_⟩
    rintro _ ⟨⟩
  · obtain ⟨retains', holds'⟩ := next a limits (t limits w).2
    exact ⟨retains.trans retains', fun b told => holds' b told w retains (holds a came)⟩

/-- A result that is put into other words. -/
theorem brings_return {t : Action α} {f : α → β} (first : Brings Q t)
    (reads : ∀ w w' a, Q w w' a → Q' w w' (f a)) : Brings Q' (do return f (← t)) :=
  brings_bind first fun a => brings_pure fun _ w _ holds => reads w _ a holds

/-- What is brought may be told of less exactly. -/
theorem Brings.mono {t : Action α} {weaker : World → World → α → Prop} (h : Brings Q t)
    (weakens : ∀ w w' a, Q w w' a → weaker w w' a) : Brings weaker t := by
  intro limits w
  obtain ⟨retains, holds⟩ := h limits w
  exact ⟨retains, fun a told => weakens w _ a (holds a told)⟩

/-- What is read of a result. -/
theorem retaining_read {t : Action α} {f : α → Except Error β} (first : Retaining t) :
    Retaining (do ofExcept (f (← t))) :=
  brings_bind first fun _ => (retaining_ofExcept _).mono fun _ _ _ _ _ _ _ => trivial

/-- Posting a request retains the databases and the count, whatever comes back. -/
theorem retaining_dispatch (c : Connection) (sender : Sender) (call : Call) (route : Route) :
    Retaining (c.dispatch sender call route) := by
  refine fun limits w => ⟨?_, fun _ _ => trivial⟩
  rcases c.dispatch_refused_or_sent sender call route limits w
    with ⟨err, _, hd⟩ | ⟨e, w', _, sends, hd⟩
  · rw [hd]
    exact .refl w
  · rw [hd]
    exact sends.retains

section results

variable {h : Handle} {command : Command}

/-- A result that is no handle. -/
theorem brings_plain {t : Action α} {f : α → Result} (first : Retaining t)
    (plain : ∀ a, (f a).handle? = none) :
    Brings (fun w w' r => h.Delivers command w w' r.handle?) (do return f (← t)) := by
  refine brings_return first fun w w' a _ => ?_
  rw [plain]
  exact h.delivers_none command w w'

/-- A computation that is only run for what it does. -/
theorem brings_done_after {t : Action α} (first : Retaining t) :
    Brings (fun w w' r => h.Delivers command w w' r.handle?)
      (do let _ ← t; return .done : Action Result) :=
  brings_plain first fun _ => rfl

/-- A result that is a handle. -/
theorem brings_handle {t : Action α} {f : α → Handle} (first : Brings Q t)
    (issues : ∀ w w' a, Q w w' a → h.Issues command w w' (f a)) :
    Brings (fun w w' r => h.Delivers command w w' r.handle?)
      (do return .handle (f (← t)) : Action Result) :=
  brings_return first fun w w' a holds => (issues w w' a holds).delivers

end results

end Action

/-! ## What gateways bring -/

/-- A cursor with a new number that was opened on a gateway. -/
def Gateway.Opened (g : Gateway) (w w' : World) (c : Cursor) : Prop :=
  ∃ serial seed, Gave w w' serial ∧ c = .ofSeed g.connection g.route serial seed

/-- A change stream with a new number that was opened on a gateway. -/
def Gateway.Subscribed (g : Gateway) (w w' : World) (s : ChangeStream) : Prop :=
  ∃ serial seed, Gave w w' serial ∧ s = .ofSeed g.connection g.route serial seed

namespace Gateway

variable (g : Gateway) {h : Handle} (command : Command)

/-- A call that is passed through retains the world, whatever comes back. -/
theorem forward_retaining (name : String) (args : List Value) (kwargs : Document) :
    Retaining (g.forward name args kwargs) := by
  unfold forward
  split
  · exact brings_fail _
  · split
    · exact brings_fail _
    · exact retaining_dispatch _ _ _ _

/-- A call for a value brings no handle and retains the world. -/
theorem value_retaining (name : String) (args : List Value) (kwargs : Document) :
    Retaining (g.value name args kwargs) :=
  retaining_read (g.forward_retaining name args kwargs)

/-- A cursor is opened under a new number. -/
theorem openCursor_brings (seed : CursorSeed) : Brings g.Opened (g.openCursor seed) :=
  brings_return brings_fresh fun _ _ serial gave => ⟨serial, seed, gave, rfl⟩

/-- A change stream is opened under a new number. -/
theorem openStream_brings (seed : StreamSeed) : Brings g.Subscribed (g.openStream seed) :=
  brings_return brings_fresh fun _ _ serial gave => ⟨serial, seed, gave, rfl⟩

variable {g}

/-- A number that is new in the later of two worlds is new in the earlier one. -/
theorem Opened.within {w v w' : World} {c : Cursor} (opened : g.Opened v w' c)
    (retains : Retains w v) : g.Opened w w' c := by
  obtain ⟨serial, seed, gave, same⟩ := opened
  exact ⟨serial, seed, gave.within retains.next_le (Nat.le_refl _), same⟩

/-- The number of a stream that is new in the later of two worlds is new in the earlier one. -/
theorem Subscribed.within {w v w' : World} {s : ChangeStream} (subscribed : g.Subscribed v w' s)
    (retains : Retains w v) : g.Subscribed w w' s := by
  obtain ⟨serial, seed, gave, same⟩ := subscribed
  exact ⟨serial, seed, gave.within retains.next_le (Nat.le_refl _), same⟩

/-- The handle whose gateway opened a cursor may bring it. -/
theorem Opened.issues {w w' : World} {c : Cursor} (opened : g.Opened w w' c)
    (maker : h.gateway? = some g) : h.Issues command w w' (.cursor c) := by
  obtain ⟨serial, seed, gave, rfl⟩ := opened
  exact .cursor g serial seed maker gave

/-- The handle whose gateway opened a change stream may bring it. -/
theorem Subscribed.issues {w w' : World} {s : ChangeStream} (subscribed : g.Subscribed w w' s)
    (maker : h.gateway? = some g) : h.Issues command w w' (.changeStream s) := by
  obtain ⟨serial, seed, gave, rfl⟩ := subscribed
  exact .stream g serial seed maker gave

variable (g)

/-- A call for a cursor brings one with a new number. -/
theorem cursor_brings (name : String) (args : List Value) (kwargs : Document) :
    Brings g.Opened (g.cursor name args kwargs) := by
  refine brings_bind (g.forward_retaining name args kwargs) fun reply => ?_
  refine brings_bind (retaining_ofExcept _) fun seed => ?_
  refine (g.openCursor_brings seed).mono fun v w' c opened u retains _ w retains' _ => ?_
  exact opened.within (retains'.trans retains)

/-- A call for a change stream brings one with a new number. -/
theorem stream_brings (name : String) (args : List Value) (kwargs : Document) :
    Brings g.Subscribed (g.stream name args kwargs) := by
  refine brings_bind (g.forward_retaining name args kwargs) fun reply => ?_
  refine brings_bind (retaining_ofExcept _) fun seed => ?_
  refine (g.openStream_brings seed).mono fun v w' s subscribed u retains _ w retains' _ => ?_
  exact subscribed.within (retains'.trans retains)

variable (maker : h.gateway? = some g)

include maker

/-- A call that is passed through brings a new cursor, a new change stream or no handle. -/
theorem forwardOutcome_brings (name : String) (args : List Value) (kwargs : Document) :
    Brings (fun w w' o => h.Delivers command w w' o.handle?)
      (g.forwardOutcome name args kwargs) := by
  refine brings_bind (g.forward_retaining name args kwargs) fun reply => ?_
  cases reply with
  | value v => exact brings_pure fun v w _ _ => h.delivers_none command w v
  | cursor seed =>
    refine brings_return (g.openCursor_brings seed) fun v w' c opened w retains _ => ?_
    exact ((opened.within retains).issues command maker).delivers
  | stream seed =>
    refine brings_return (g.openStream_brings seed) fun v w' s subscribed w retains _ => ?_
    exact ((subscribed.within retains).issues command maker).delivers

/-- A call by name brings what the handle itself makes of it, or what is forwarded. -/
theorem invoke_brings (name : String) (args : List Value) (kwargs : Document)
    {answer : Action Outcome}
    (own : Brings (fun w w' o => h.Delivers command w w' o.handle?) answer) :
    Brings (fun w w' o => h.Delivers command w w' o.handle?)
      (g.invoke name args kwargs answer) := by
  unfold invoke
  split
  · exact brings_fail _
  · exact g.forwardOutcome_brings command maker name args kwargs
  · exact own

/-- What all handles with operations know. -/
theorem common_brings {t : Action Result} (known : Handle.common? g command = some t) :
    Brings (fun w w' r => h.Delivers command w w' r.handle?) t := by
  cases command <;> cases known
  case route => exact brings_pure fun w => h.delivers_none _ w w
  case surface => exact brings_pure fun w => h.delivers_none _ w w
  case forward call => exact brings_plain (g.forward_retaining _ _ _) fun _ => rfl
  case forwardOutcome call into =>
    exact brings_return (g.forwardOutcome_brings _ maker _ _ _) fun _ _ _ h => h.ofOutcome into

end Gateway

end RemoteDriver
