import RemoteDriver.Outcome
import RemoteDriver.Proofs.Closing.Comparison

/-!
# What handles answer themselves

A good part of what handles offer never reaches the remote side: databases and collections are made
on the spot, settings are answered with nothing, and misuse is refused.  Such a computation is
`Quiet`: nothing goes over the wire while it runs, no time passes, and it fails only in the ways
that are told.

What a client, a database or a collection itself makes of a call by name is quiet, and fails by
misuse only (`Client.answer_quiet`, `Database.answer_quiet`, `Collection.answer_quiet`).
-/

namespace RemoteDriver

open Bson (Document Value)

/-! ## Still worlds -/

namespace World

/-- Between two worlds nothing went over the wire, and no time passed. -/
structure Still (w w' : World) : Prop where
  /-- The log is the same. -/
  posted : w'.posted = w.posted
  /-- The remote side is the same. -/
  remote : w'.remote = w.remote
  /-- It is the same time. -/
  now : w'.now = w.now

variable {w w' w'' : World}

/-- A world is still as long as nothing is done. -/
theorem Still.refl (w : World) : Still w w := ⟨rfl, rfl, rfl⟩

/-- Two still stretches are one. -/
theorem Still.trans (first : Still w w') (second : Still w' w'') : Still w w'' :=
  ⟨second.posted.trans first.posted, second.remote.trans first.remote, second.now.trans first.now⟩

/-- Closing a client is told to nobody. -/
theorem still_close (w : World) (client : Nat) : Still w (w.close client) := by
  unfold close
  split <;> exact ⟨rfl, rfl, rfl⟩

/-- A close signal fires without a request. -/
theorem still_fire (w : World) (subscription : Nat) : Still w (w.fire subscription) := by
  unfold fire
  split <;> exact ⟨rfl, rfl, rfl⟩

end World

/-! ## Quiet computations -/

/-- An error tells of misuse: the call is not supported as it was made. -/
def Error.IsMisuse (err : Error) : Prop := err.kind = .usage

namespace Action

open World (Still)

variable {α β : Type} {fails : Error → Prop}

/-- A computation that sends nothing and takes no time, and fails only in these ways. -/
structure Quiet (fails : Error → Prop) (t : Action α) : Prop where
  /-- Nothing goes over the wire. -/
  still : ∀ limits w, Still w (t limits w).2
  /-- There is a result, or a failure of this kind. -/
  failing : ∀ limits w h, (t limits w).1 = .error h → ∃ err, h = .failed err ∧ fails err

/-- What is there already is quiet. -/
theorem quiet_pure (a : α) : Quiet fails (pure a) := by
  refine ⟨fun _ w => .refl w, ?_⟩
  rintro _ _ _ ⟨⟩

/-- A failure that is allowed is quiet. -/
theorem quiet_fail {err : Error} (h : fails err) : Quiet fails (fail err : Action α) := by
  refine ⟨fun _ w => .refl w, ?_⟩
  rintro _ _ _ ⟨rfl⟩
  exact ⟨err, rfl, h⟩

/-- What is known from the start is quiet, if its failure is allowed. -/
theorem quiet_ofExcept {r : Except Error α} (h : ∀ err, r = .error err → fails err) :
    Quiet fails (ofExcept r) := by
  cases r with
  | ok a => exact quiet_pure a
  | error err => exact quiet_fail (h err rfl)

/-- Giving a number away is quiet. -/
theorem quiet_fresh : Quiet fails fresh := by
  refine ⟨fun _ _ => ⟨rfl, rfl, rfl⟩, ?_⟩
  rintro _ _ _ ⟨⟩

/-- Looking at the world is quiet. -/
theorem quiet_look (f : World → α) : Quiet fails (look f) := by
  refine ⟨fun _ w => .refl w, ?_⟩
  rintro _ _ _ ⟨⟩

/-- A change is quiet if it leaves the world still. -/
theorem quiet_change {f : World → World} (h : ∀ w, Still w (f w)) : Quiet fails (change f) := by
  refine ⟨fun _ w => h w, ?_⟩
  rintro _ _ _ ⟨⟩

/-- What is put together from quiet computations is quiet. -/
theorem quiet_bind {t : Action α} {f : α → Action β} (first : Quiet fails t)
    (next : ∀ a, Quiet fails (f a)) : Quiet fails (t >>= f) := by
  constructor
  · intro limits w
    have still := first.still limits w
    rw [bind_eq_resumed]
    rcases (t limits w).1 with h | a
    · exact still
    · exact still.trans ((next a).still limits _)
  · intro limits w h failed
    rw [bind_eq_resumed] at failed
    rcases told : (t limits w).1 with h' | a
    · rw [told] at failed
      cases failed
      exact first.failing limits w h told
    · rw [told] at failed
      exact (next a).failing limits _ h failed

/-- More failures may be allowed. -/
theorem Quiet.mono {t : Action α} {weaker : Error → Prop} (h : Quiet fails t)
    (implies : ∀ err, fails err → weaker err) : Quiet weaker t := by
  refine ⟨h.still, fun limits w halt failed => ?_⟩
  obtain ⟨err, same, told⟩ := h.failing limits w halt failed
  exact ⟨err, same, implies err told⟩

end Action

open RemoteDriver.Action

/-- A handle that is made of a reply is made on the spot. -/
theorem Outcome.ofReply_quiet (g : Gateway) (reply : Reply) :
    Quiet (fun _ => False) (Outcome.ofReply g reply) := by
  cases reply with
  | value v => exact quiet_pure _
  | cursor seed =>
    exact quiet_bind (quiet_bind quiet_fresh fun _ => quiet_pure _) fun _ => quiet_pure _
  | stream seed =>
    exact quiet_bind (quiet_bind quiet_fresh fun _ => quiet_pure _) fun _ => quiet_pure _

/-- An argument that is no text is misuse. -/
theorem isMisuse_of_textArgument {operation name : String} {args : List Value} {kwargs : Document}
    {err : Error} (h : textArgument operation args kwargs name = .error err) : err.IsMisuse := by
  unfold textArgument at h
  split at h <;> cases h
  rfl

/-! ## Clients -/

namespace Client

variable (c : Client)

/-- A database is looked up and entered without a request. -/
theorem cached_quiet (name : String) : Quiet Error.IsMisuse (c.cached name) := by
  constructor
  · intro limits w
    unfold cached
    split <;> exact ⟨rfl, rfl, rfl⟩
  · intro limits w h failed
    unfold cached at failed
    split at failed <;> cases failed

/-- Asking for a database by its name is quiet, and misuse where the name is empty or missing. -/
theorem getDatabase_quiet (name : Option String) : Quiet Error.IsMisuse (c.getDatabase name) := by
  unfold getDatabase
  split
  · split
    · exact quiet_fail rfl
    · exact c.cached_quiet _
  · exact quiet_fail rfl

/-- Asking for a database as an attribute is quiet, and misuse where the name is no attribute. -/
theorem attr_quiet (name : String) : Quiet Error.IsMisuse (c.attr name) := by
  unfold attr
  split
  · exact quiet_fail rfl
  · exact c.getDatabase_quiet _

/-- Asking for the default database is quiet, and misuse where there is none. -/
theorem defaultDatabase_quiet (fallback : Option String) :
    Quiet Error.IsMisuse (c.defaultDatabase fallback) := by
  unfold defaultDatabase
  split
  · exact c.getDatabase_quiet _
  · exact quiet_fail rfl

/-- Closing a client is quiet. -/
theorem close_quiet : Quiet Error.IsMisuse c.close := by
  have closing : Quiet Error.IsMisuse c.connection.close :=
    quiet_bind (quiet_look _) fun _ =>
      quiet_bind (quiet_change fun w => w.still_close _) fun _ => quiet_pure _
  exact quiet_bind closing fun _ => quiet_pure _

/-- What a client itself makes of a call by name. -/
theorem answer_quiet (name : String) (args : List Value) (kwargs : Document) :
    Quiet Error.IsMisuse (c.answer name args kwargs) := by
  have argument (operation key : String) :
      Quiet Error.IsMisuse (ofExcept (textArgument operation args kwargs key)) :=
    quiet_ofExcept fun _ => isMisuse_of_textArgument
  unfold answer
  split
  · exact quiet_bind (argument _ _) fun _ =>
      quiet_bind (c.getDatabase_quiet _) fun _ => quiet_pure _
  split
  · exact quiet_bind (argument _ _) fun _ =>
      quiet_bind (c.defaultDatabase_quiet _) fun _ => quiet_pure _
  split
  · exact quiet_fail rfl
  split
  · exact quiet_bind c.close_quiet fun _ => quiet_pure _
  split
  · exact quiet_pure _
  · exact quiet_fail rfl

end Client

/-! ## Databases -/

namespace Database

variable (d : Database)

/-- Asking a database for its client is quiet. -/
theorem client_quiet : Quiet Error.IsMisuse d.client := by
  apply quiet_bind (quiet_look _)
  intro gone
  split
  · exact quiet_fail rfl
  · exact quiet_pure _

/-- Naming a collection is quiet, and misuse where the name is empty. -/
theorem getCollection_quiet (name : String) :
    Quiet Error.IsMisuse (ofExcept (d.getCollection name)) := by
  unfold getCollection
  split
  · exact quiet_fail rfl
  · exact quiet_pure _

/-- Naming a collection as an attribute is quiet, and misuse where the name is no attribute. -/
theorem attr_quiet (name : String) : Quiet Error.IsMisuse (ofExcept (d.attr name)) := by
  unfold attr
  split
  · exact quiet_fail rfl
  · exact d.getCollection_quiet name

/-- What a database itself makes of a call by name. -/
theorem answer_quiet (name : String) (args : List Value) (kwargs : Document) :
    Quiet Error.IsMisuse (d.answer name args kwargs) := by
  unfold answer
  split
  · exact quiet_pure _
  split
  · exact quiet_bind d.client_quiet fun _ => quiet_pure _
  split
  · exact quiet_bind (quiet_ofExcept fun _ => isMisuse_of_textArgument) fun _ =>
      quiet_bind (d.getCollection_quiet _) fun _ => quiet_pure _
  split
  · exact quiet_pure _
  split
  · exact quiet_pure _
  · exact quiet_fail rfl

end Database

/-! ## Collections -/

/-- What a collection itself makes of a call by name. -/
theorem Collection.answer_quiet (c : Collection) (name : String) :
    Quiet Error.IsMisuse (c.answer name) := by
  unfold answer
  split
  · exact quiet_pure _
  split
  · exact quiet_pure _
  split
  · exact quiet_pure _
  split
  · exact quiet_pure _
  split
  · exact quiet_pure _
  · exact quiet_fail rfl

end RemoteDriver
