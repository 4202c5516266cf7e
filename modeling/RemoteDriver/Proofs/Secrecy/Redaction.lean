import Mathlib.Data.List.Forall2
import RemoteDriver.Proofs.Closing.Loops
import RemoteDriver.Session.Step

/-!
# Values without access keys

An endpoint holds a key, and so does everything that has a connection; a request carries it in its
`Authorization` header.  A value is `redacted` if every key in it is replaced by a stand-in, which
is empty where the key is, and every value of this header by that of the stand-in.  Nothing else of
a value is left out.

A computation does not read keys if redacting is as good before it as after it: in a redacted world
it brings the redacted result and leaves the redacted world (`Action.Redacts`).  That is so of a
call, since a key only gets into the headers of its request (`Connection.dispatch_redacts`), and it
is kept by the ways in which computations are put together.
-/

namespace RemoteDriver

open Bson (Document Value)

/-! ## Redaction -/

namespace Endpoint

/-- What stands for a key: nothing for no key, and else always the same. -/
def standIn (key : List UInt8) : List UInt8 := if key.isEmpty then [] else [0]

/-- The value of the header that carries the stand-in. -/
def hidden : String := "Basic :" ++ String.ofList (Text.Base64.encode [0])

/-- An endpoint without its key. -/
def redacted (e : Endpoint) : Endpoint := { e with accessKey := standIn e.accessKey }

end Endpoint

/-- A header without the key that it carries. -/
def Request.withoutKey (header : String × String) : String × String :=
  if header.1 = "Authorization" then (header.1, Endpoint.hidden) else header

/-- A request without the key that it carries. -/
def Request.redacted (r : Request) : Request := { r with headers := r.headers.map withoutKey }

/-- A world in which the requests that have been posted carry no keys. -/
def World.redacted (w : World) : World := { w with posted := w.posted.map Request.redacted }

/-- A connection without its key. -/
def Connection.redacted (c : Connection) : Connection := { c with endpoint := c.endpoint.redacted }

/-- A client without its key. -/
def Client.redacted (c : Client) : Client := { c with connection := c.connection.redacted }

/-- A database without the key of its client. -/
def Database.redacted (d : Database) : Database := { d with owner := d.owner.redacted }

/-- A collection without the key of its client. -/
def Collection.redacted (c : Collection) : Collection := { c with database := c.database.redacted }

/-- A cursor without the key of its client. -/
def Cursor.redacted (c : Cursor) : Cursor := { c with connection := c.connection.redacted }

/-- A change stream without the key of its client. -/
def ChangeStream.redacted (s : ChangeStream) : ChangeStream :=
  { s with connection := s.connection.redacted }

/-- What a call by name needs, without the key. -/
def Gateway.redacted (g : Gateway) : Gateway := { g with connection := g.connection.redacted }

/-- An outcome without the key of its client. -/
def Outcome.redacted : Outcome → Outcome
  | value v => value v
  | cursor c => cursor c.redacted
  | changeStream s => changeStream s.redacted
  | database d => database d.redacted
  | collection c => collection c.redacted
  | client c => client c.redacted

namespace Endpoint

/-- The headers of a redacted endpoint are those of the endpoint without the key. -/
theorem headers_redacted (e : Endpoint) :
    e.redacted.headers = e.headers.map Request.withoutKey := by
  obtain ⟨url, _ | ⟨b, key⟩⟩ := e
  · rfl
  · rfl

/-- Whether access is anonymous can still be told. -/
theorem isAnonymous_redacted (e : Endpoint) : e.redacted.isAnonymous = e.isAnonymous := by
  obtain ⟨url, _ | ⟨b, key⟩⟩ := e <;> rfl

/-- The description of an endpoint does not tell its key. -/
theorem description_redacted (e : Endpoint) : e.redacted.description = e.description := by
  unfold description
  rw [isAnonymous_redacted]
  rfl

end Endpoint

/-- Nor does the description of a client. -/
theorem Client.description_redacted (c : Client) (w : World) :
    c.redacted.description w.redacted = c.description w := by
  show "Client \x7b endpoint: " ++ c.connection.endpoint.redacted.description ++ _ ++ _ ++ _ = _
  rw [Endpoint.description_redacted]
  rfl

/-- A redacted connection makes redacted requests. -/
theorem Connection.request_redacted (c : Connection) (envelope : Envelope) :
    c.redacted.request envelope = (c.request envelope).redacted := by
  show Request.mk _ c.endpoint.redacted.headers envelope = _
  rw [Endpoint.headers_redacted]
  rfl

/-- Two headers that are the same, or are both `Authorization` headers. -/
structure Request.SameHeader (h h' : String × String) : Prop where
  /-- They have one name. -/
  name : h.1 = h'.1
  /-- Only the value of an `Authorization` header may be another. -/
  value : h.1 ≠ "Authorization" → h.2 = h'.2

/-- Two requests that are the same but for the values of `Authorization` headers. -/
structure Request.SameButKey (r r' : Request) : Prop where
  /-- They go to one URL. -/
  url : r.url = r'.url
  /-- They have one body. -/
  envelope : r.envelope = r'.envelope
  /-- They have the same headers in the same order, whatever the key is. -/
  headers : List.Forall₂ SameHeader r.headers r'.headers

/-- Two headers differ in a key at most if they are the same without it. -/
theorem Request.withoutKey_eq_iff {h h' : String × String} :
    withoutKey h = withoutKey h' ↔ SameHeader h h' := by
  have told : SameHeader h h' ↔ h.1 = h'.1 ∧ (h.1 ≠ "Authorization" → h.2 = h'.2) :=
    ⟨fun same => ⟨same.name, same.value⟩, fun ⟨name, value⟩ => ⟨name, value⟩⟩
  rw [told]
  obtain ⟨name, value⟩ := h
  obtain ⟨name', value'⟩ := h'
  unfold withoutKey
  by_cases first : name = "Authorization" <;> by_cases second : name' = "Authorization"
  · simp [first, second]
  · simp [first, second, Ne.symm second]
  · simp [first, second]
  · simp [first, second]

/-- Requests that are the same without their keys are the same but for the values of their
`Authorization` headers. -/
theorem Request.redacted_eq_iff {r r' : Request} :
    r.redacted = r'.redacted ↔ r.SameButKey r' := by
  have headers : r.headers.map withoutKey = r'.headers.map withoutKey
      ↔ List.Forall₂ SameHeader r.headers r'.headers := by
    rw [← List.forall₂_eq_eq_eq, List.forall₂_map_left_iff, List.forall₂_map_right_iff]
    simp only [withoutKey_eq_iff]
  constructor
  · intro same
    injection same with url same envelope
    exact ⟨url, envelope, headers.mp same⟩
  · intro same
    unfold redacted
    rw [same.url, same.envelope, headers.mpr same.headers]

/-! ## Computations that do not read keys -/

namespace Action

variable {α β : Type}

/-- In a redacted world `t'` does what `t` does in the world as it is, and brings what `t` brings
without the keys in it, which `f` takes out. -/
def Redacts (f : α → α) (t t' : Action α) : Prop :=
  ∀ limits w, t' limits w.redacted = ((t limits w).1.map f, (t limits w).2.redacted)

variable {f : α → α} {g : β → β} {t t' : Action α}

/-- What is there already is brought without its keys. -/
theorem redacts_pure {a b : α} (same : b = f a) : Redacts f (pure a) (pure b) := by
  subst same
  exact fun _ _ => rfl

/-- A failure holds no key. -/
theorem redacts_fail (e : Error) : Redacts f (fail e) (fail e) := fun _ _ => rfl

/-- What is known from the start is brought without its keys. -/
theorem redacts_ofExcept {r r' : Except Error α} (same : r' = r.map f) :
    Redacts f (ofExcept r) (ofExcept r') := by
  subst same
  rcases r with e | a
  · exact redacts_fail e
  · exact redacts_pure rfl

/-- A result in which no keys stand. -/
theorem redacts_told (r : Except Error α) : Redacts id (ofExcept r) (ofExcept r) :=
  redacts_ofExcept (congrFun Except.map_id r).symm

/-- Numbers are given away without a look at keys. -/
theorem redacts_fresh : Redacts id fresh fresh := fun _ _ => rfl

/-- Looking reads no key where the world shows none. -/
theorem redacts_look {p : World → α} (same : ∀ w, p w.redacted = f (p w)) :
    Redacts f (look p) (look p) := by
  intro limits w
  unfold look
  rw [same]
  rfl

/-- A change reads no key where it makes the same of the redacted world. -/
theorem redacts_change {h : World → World} (same : ∀ w : World, h w.redacted = (h w).redacted) :
    Redacts id (change h) (change h) := by
  intro limits w
  unfold change
  rw [same]
  rfl

/-- Computations that read no keys read none one after the other. -/
theorem redacts_bind {k k' : α → Action β} (first : Redacts f t t')
    (next : ∀ a, Redacts g (k a) (k' (f a))) : Redacts g (t >>= k) (t' >>= k') := by
  intro limits w
  rw [bind_eq_resumed, bind_eq_resumed, first]
  rcases t limits w with ⟨h | a, w'⟩
  · rfl
  · exact next a limits w'

/-- A result that is put into other words. -/
theorem Redacts.return (first : Redacts f t t') {u u' : α → β} (same : ∀ a, u' (f a) = g (u a)) :
    Redacts g (do return u (← t)) (do return u' (← t')) :=
  redacts_bind first fun a => redacts_pure (same a)

/-- A result that is checked. -/
theorem Redacts.check (first : Redacts id t t') (u : α → Except Error β) :
    Redacts id (do ofExcept (u (← t))) (do ofExcept (u (← t'))) :=
  redacts_bind first fun a => redacts_told (u a)

/-- A request is answered without a look at the key in its header. -/
theorem redacts_post (sender : Sender) (request : Request) :
    Redacts id (post sender request) (post sender request.redacted) := by
  intro limits w
  have logged : (w.posted ++ [request]).map Request.redacted
      = w.posted.map Request.redacted ++ [request.redacted] := List.map_append
  unfold post
  dsimp only [World.redacted]
  rw [show request.redacted.envelope = request.envelope from rfl]
  rcases w.remote.answer sender request.envelope.operation with ⟨answer, remote⟩
  dsimp only
  rcases answer.content with _ | content
  · dsimp only
    rw [logged]
    rfl
  · dsimp only
    split
    · rw [logged]
      rfl
    · rw [logged]
      rfl

/-- A bound in time reads no key. -/
theorem redacts_within (redacts : Redacts id t t') (operation : String) (span : Nat) :
    Redacts id (within operation span t) (within operation span t') := by
  intro limits w
  unfold within
  dsimp only
  rw [show w.redacted.now = w.now from rfl]
  by_cases bounded : w.now + span ≤ limits.deadline
  · rw [if_pos bounded, if_pos bounded, redacts]
    rcases t { limits with deadline := w.now + span } w with ⟨(e | _) | a, w'⟩ <;> rfl
  · rw [if_neg bounded, if_neg bounded]
    exact redacts limits w

/-- Breaking off reads no key. -/
theorem redacts_interruptedAt (redacts : Redacts id t t') (moment : Option Nat) :
    Redacts id (interruptedAt moment t) (interruptedAt moment t') := by
  have whole (limits : Limits) (w : World) : (t' limits w.redacted).map (·.map some) id
      = (((t limits w).1.map some).map id, (t limits w).2.redacted) := by
    rw [redacts]
    rcases t limits w with ⟨h | a, w'⟩ <;> rfl
  intro limits w
  unfold interruptedAt
  rcases moment with _ | moment
  · exact whole limits w
  · dsimp only
    rw [show w.redacted.now = w.now from rfl]
    by_cases bounded : max w.now moment ≤ limits.deadline
    · rw [if_pos bounded, if_pos bounded, redacts]
      rcases t { limits with deadline := max w.now moment } w with ⟨(e | _) | a, w'⟩ <;> rfl
    · rw [if_neg bounded, if_neg bounded]
      exact whole limits w

end Action

open RemoteDriver.Action

/-- A call is made without reading the key, but for the headers of its request. -/
theorem Connection.dispatch_redacts (c : Connection) (sender : Sender) (call : Call)
    (route : Route) :
    Redacts id (c.dispatch sender call route) (c.redacted.dispatch sender call route) := by
  intro limits w
  unfold dispatch
  rw [show w.redacted.isClosed c.redacted.client = w.isClosed c.client from rfl,
    show c.redacted.codec = c.codec from rfl]
  by_cases closed : w.isClosed c.client = true
  · rw [if_pos closed, if_pos closed]
    rfl
  · rw [if_neg closed, if_neg closed]
    rcases Envelope.ofCall c.codec call route with e | envelope
    · rfl
    · dsimp only
      rw [request_redacted, redacts_post]
      rcases post sender (c.request envelope) limits w with ⟨h | content, w'⟩
      · rfl
      · dsimp only [Except.map, id]
        cases received c.codec call.name content <;> rfl

end RemoteDriver
