import RemoteDriver.Http
import RemoteDriver.Proofs.Routing.Requests
import RemoteDriver.Proofs.Surface.Forwarding
import RemoteDriver.Proofs.Text.RoundTrip

/-!
# Credentials

A client with a key shows it in one header of every request: after `Basic :` stands the key in
base64, so the header tells the key back and holds nothing but plain characters, whatever the bytes
of the key are (`Connection.request_bears`).  A client without a key has no such header.

All handles that come of a client post over its connection (`Handle.service_posts`), and what a
session brings keeps the connection that it comes of.  So for every run there are the keys of its
clients, and every request of the run bears the key of the client of the handle that is in use
(`Session.requests_bear_keys`).
-/

namespace RemoteDriver

/-! ## Base64 texts -/

namespace Text.Base64

/-- The sixty-four characters that stand for six bits each. -/
def alphabet : List Char :=
  "ABCDEFGHIJKLMNOPQRSTUVWXYZabcdefghijklmnopqrstuvwxyz0123456789+/".toList

/-- Whole groups of four characters of the alphabet, of which the last may end with one or two
fillers. -/
structure IsPadded (text : List Char) : Prop where
  /-- The groups are whole. -/
  whole : text.length % 4 = 0
  /-- The fillers stand at the end. -/
  filled : ∃ digits fillers, text = digits ++ List.replicate fillers '=' ∧ fillers ≤ 2 ∧
    ∀ c ∈ digits, c ∈ alphabet

/-- The characters stand in the order of what they stand for. -/
theorem alphabet_eq : alphabet = (List.range 64).map digit := by decide

/-- Each six bits are written as a character of the alphabet. -/
theorem digit_mem_alphabet {n : Nat} (h : n < 64) : digit n ∈ alphabet := by
  rw [alphabet_eq]
  exact List.mem_map_of_mem (List.mem_range.2 h)

/-- The characters of the alphabet and the filler are neither blank nor control characters. -/
theorem IsPadded.visible {text : List Char} (padded : IsPadded text) {c : Char} (mem : c ∈ text) :
    0x21 ≤ c.toNat ∧ c.toNat ≤ 0x7E := by
  have digit : alphabet.all (fun c => 0x21 ≤ c.toNat ∧ c.toNat ≤ 0x7E) = true := by decide
  obtain ⟨digits, fillers, rfl, _, all⟩ := padded.filled
  rcases List.mem_append.mp mem with inside | filler
  · exact of_decide_eq_true (List.all_eq_true.mp digit c (all c inside))
  · rw [List.eq_of_mem_replicate filler]
    decide

/-- Bytes are written in whole groups. -/
theorem isPadded_encode (bytes : List UInt8) : IsPadded (encode bytes) := by
  -- no byte is left, or one, or two, or at least a whole group of three
  fun_induction encode bytes with
  | case1 => exact ⟨rfl, [], 0, rfl, Nat.zero_le 2, by simp⟩
  | case2 a n =>
    have small : n < 256 := a.toNat_lt
    refine ⟨Nat.mod_self 4, [digit (n / 4), digit (n % 4 * 16)], 2, rfl, Nat.le_refl 2, ?_⟩
    rintro c (_ | ⟨_, _ | ⟨_, _ | _⟩⟩)
    · exact digit_mem_alphabet (by omega)
    · exact digit_mem_alphabet (by omega)
  | case3 a b n =>
    have small : n < 65536 := by
      have := a.toNat_lt
      have := b.toNat_lt
      omega
    refine ⟨Nat.mod_self 4, [digit (n / 1024), digit (n / 16 % 64), digit (n % 16 * 4)], 1, rfl,
      Nat.le_succ 1, ?_⟩
    rintro c (_ | ⟨_, _ | ⟨_, _ | ⟨_, _ | _⟩⟩⟩)
    · exact digit_mem_alphabet (by omega)
    · exact digit_mem_alphabet (by omega)
    · exact digit_mem_alphabet (by omega)
  | case4 a b c rest n ih =>
    have small : n < 16777216 := by
      have := a.toNat_lt
      have := b.toNat_lt
      have := c.toNat_lt
      omega
    obtain ⟨whole, digits, fillers, same, few, all⟩ := ih
    refine ⟨?_, digit (n / 262144) :: digit (n / 4096 % 64) :: digit (n / 64 % 64)
      :: digit (n % 64) :: digits, fillers, ?_, few, ?_⟩
    · simp only [List.length_cons]
      omega
    · rw [same]
      rfl
    · rintro c (_ | ⟨_, _ | ⟨_, _ | ⟨_, _ | ⟨_, inside⟩⟩⟩⟩)
      · exact digit_mem_alphabet (by omega)
      · exact digit_mem_alphabet (by omega)
      · exact digit_mem_alphabet (by omega)
      · exact digit_mem_alphabet (by omega)
      · exact all c inside

end Text.Base64

/-! ## Requests of a connection -/

namespace Request

/-- Whether a header tells who sends a request; its name may be in letters of either case. -/
def isCredential (header : String × String) : Bool :=
  header.1.toList.map Char.toLower = "authorization".toList

/-- The values of the headers that tell who sends a request. -/
def credentials (r : Request) : List String := (r.headers.filter isCredential).map (·.2)

/-- A request tells a key to those who read it. -/
structure Bears (r : Request) (key : List UInt8) : Prop where
  /-- Without a key there is no header for it. -/
  anonymous : key = [] → r.credentials = []
  /-- Otherwise there is one header, whose value is the key in base64 after a fixed text. -/
  keyed : key ≠ [] → ∃ text, r.credentials = ["Basic :" ++ String.ofList text] ∧
    Text.Base64.decode text = some key ∧ Text.Base64.IsPadded text
  /-- The header holds nothing but visible characters and blanks. -/
  plain : ∀ value ∈ r.credentials, ∀ c ∈ value.toList, 0x20 ≤ c.toNat ∧ c.toNat ≤ 0x7E

/-- The header tells the key. -/
theorem Bears.key_eq {r r' : Request} {key key' : List UInt8} (bears : r.Bears key)
    (bears' : r'.Bears key') (same : r.credentials = r'.credentials) : key = key' := by
  by_cases empty : key = []
  · by_cases empty' : key' = []
    · exact empty.trans empty'.symm
    · obtain ⟨text', has', _⟩ := bears'.keyed empty'
      rw [← same, bears.anonymous empty] at has'
      cases has'
  · obtain ⟨text, has, decodes, _⟩ := bears.keyed empty
    by_cases empty' : key' = []
    · rw [same, bears'.anonymous empty'] at has
      cases has
    · obtain ⟨text', has', decodes', _⟩ := bears'.keyed empty'
      rw [same, has'] at has
      have texts := congrArg String.toList (List.cons.inj has).1
      simp only [String.toList_append, String.toList_ofList] at texts
      rw [← List.append_cancel_left texts, decodes'] at decodes
      exact (Option.some.inj decodes).symm

end Request

/-- Without a key there is no header. -/
theorem Endpoint.headers_of_anonymous {e : Endpoint} (anonymous : e.accessKey = []) :
    e.headers = [] := by
  unfold headers authorization isAnonymous
  rw [anonymous]
  rfl

/-- With a key there is one header, which shows it. -/
theorem Endpoint.headers_of_key {e : Endpoint} (keyed : e.accessKey ≠ []) : e.headers
    = [("Authorization", "Basic :" ++ String.ofList (Text.Base64.encode e.accessKey))] := by
  unfold headers authorization isAnonymous
  rw [List.isEmpty_eq_false_iff.mpr keyed]
  rfl

/-- Every request of a connection bears the key of its endpoint. -/
theorem Connection.request_bears (c : Connection) (envelope : Envelope) :
    (c.request envelope).Bears c.endpoint.accessKey := by
  have headers : (c.request envelope).headers = c.endpoint.headers := rfl
  by_cases anonymous : c.endpoint.accessKey = []
  · have none : (c.request envelope).credentials = [] := by
      unfold Request.credentials
      rw [headers, Endpoint.headers_of_anonymous anonymous]
      rfl
    refine ⟨fun _ => none, fun keyed => absurd anonymous keyed, ?_⟩
    rw [none]
    rintro value ⟨⟩
  · have one : (c.request envelope).credentials
        = ["Basic :" ++ String.ofList (Text.Base64.encode c.endpoint.accessKey)] := by
      unfold Request.credentials
      have sent (value : String) : Request.isCredential ("Authorization", value) = true := by
        show decide ("Authorization".toList.map Char.toLower = "authorization".toList) = true
        decide
      rw [headers, Endpoint.headers_of_key anonymous, List.filter_cons_of_pos (sent _)]
      rfl
    have padded := Text.Base64.isPadded_encode c.endpoint.accessKey
    refine ⟨fun empty => absurd empty anonymous,
      fun _ => ⟨_, one, Text.Base64.decode_encode _, padded⟩, ?_⟩
    rw [one]
    intro value mem c mem'
    rw [List.mem_singleton.mp mem, String.toList_append] at mem'
    rcases List.mem_append.mp mem' with fixed | inside
    · have all : "Basic :".toList.all (fun c => 0x20 ≤ c.toNat ∧ c.toNat ≤ 0x7E) = true := by
        decide
      exact of_decide_eq_true (List.all_eq_true.mp all c fixed)
    · rw [String.toList_ofList] at inside
      have visible := padded.visible inside
      omega

/-! ## Requests on handles -/

/-- Each of the exchanges is as it has to be after some of them. -/
theorem InTurn.of_mem {P : List Exchange → Exchange → Prop} {es : List Exchange}
    (inTurn : InTurn P es) {e : Exchange} (mem : e ∈ es) : ∃ prior, P prior e := by
  obtain ⟨prior, later, split⟩ := List.append_of_mem mem
  exact ⟨prior, inTurn prior e later split⟩

namespace Handle

/-- What is posted from one world to another goes over the connection of a handle. -/
def Posts (h : Handle) (w w' : World) : Prop :=
  ∃ requests, w'.posted = w.posted ++ requests
    ∧ ∀ r ∈ requests, ∃ g envelope, h.gateway? = some g ∧ r = g.connection.request envelope

variable {h : Handle} {g : Gateway} {command : Command} {service : Service} {limits : Limits}
  {w w' : World}

/-- Where nothing is posted there is nothing to show a key. -/
theorem posts_nothing (same : w'.posted = w.posted) : h.Posts w w' :=
  ⟨[], same.trans (List.append_nil _).symm, by simp⟩

/-- What comes down to a call, or to none, posts over the connection of the gateway. -/
theorem posts_of_undertakes {t : Action Result} {call? : Option Call}
    (operates : h.gateway? = some g) (undertakes : Undertakes g t call?) (limits : Limits)
    (w : World) : h.Posts w (t limits w).2 := by
  rcases undertakes.posts limits w with nothing | ⟨call, args, kwargs, _, posted⟩
  · exact posts_nothing nothing
  · refine ⟨_, posted, fun r mem => ?_⟩
    exact ⟨g, _, operates, List.mem_singleton.mp mem⟩

/-- A cursor posts over its own connection. -/
theorem posts_of_pursues {c c' : Cursor} {deadline : Nat} (pursues : c.Pursues deadline w c' w') :
    (cursor c).Posts w w' := by
  obtain ⟨es, sends, follows⟩ := pursues
  refine ⟨_, sends.posted, fun r mem => ?_⟩
  obtain ⟨e, inside, rfl⟩ := List.mem_map.mp mem
  obtain ⟨_, token, _, url, _, headers⟩ := follows.tokens.asked.of_mem inside
  exact ⟨c.gateway, e.request.envelope, rfl,
    congrArg₂ (Request.mk · · e.request.envelope) url headers⟩

/-- A change stream posts over its own connection. -/
theorem posts_of_attends {s s' : ChangeStream} {deadline : Nat → Nat}
    (attends : s.Attends deadline w s' w') : (changeStream s).Posts w w' := by
  obtain ⟨v, es, begun, sends, follows⟩ := attends
  have still : v.posted = w.posted := by
    rcases begun with rfl | rfl
    · rfl
    · exact (w.still_fire s.serial).posted
  rw [Posts, ← still]
  refine ⟨_, sends.posted, fun r mem => ?_⟩
  obtain ⟨e, inside, rfl⟩ := List.mem_map.mp mem
  obtain ⟨_, id, _, url, _, headers⟩ := follows.tokens.asked.of_mem inside
  exact ⟨s.gateway, e.request.envelope, rfl,
    congrArg₂ (Request.mk · · e.request.envelope) url headers⟩

/-- What is special to a kind of handle posts over the connection of the handle. -/
theorem own_posts (known : h.own? command = some service) (limits : Limits) (w : World) :
    h.Posts w (service limits w).2.2 := by
  cases h with
  | client c =>
    obtain ⟨t, ht, rfl⟩ := Option.map_eq_some_iff.mp known
    exact posts_of_undertakes rfl (c.own_undertakes ht) limits w
  | database d =>
    obtain ⟨t, ht, rfl⟩ := Option.map_eq_some_iff.mp known
    exact posts_of_undertakes rfl (d.own_undertakes ht) limits w
  | collection c =>
    obtain ⟨t, ht, rfl⟩ := Option.map_eq_some_iff.mp known
    exact posts_of_undertakes rfl (c.own_undertakes ht) limits w
  | cursor c =>
    obtain ⟨c', pursues, _⟩ := c.own_pursues limits w known
    exact posts_of_pursues pursues
  | changeStream s =>
    obtain ⟨s', attends, _⟩ := s.own_attends limits w known
    exact posts_of_attends attends
  | closeSignal subscription =>
    obtain ⟨t, ht, rfl⟩ := Option.map_eq_some_iff.mp known
    cases command <;> cases ht
    · exact posts_nothing (w.still_fire subscription).posted
    · exact posts_nothing rfl

/-- Whatever is asked of whatever handle, what is posted goes over its connection. -/
theorem service_posts (known : h.service? command = some service) (limits : Limits) (w : World) :
    h.Posts w (service limits w).2.2 := by
  unfold service? at known
  split at known
  · next t common =>
    cases known
    obtain ⟨g, operates, common⟩ := Option.bind_eq_some_iff.mp common
    exact posts_of_undertakes operates (g.common_undertakes common) limits w
  · exact own_posts known limits w

end Handle

/-! ## Keys of clients -/

/-- A client has the key that it is made with. -/
theorem Setup.key_of_client {setup : Setup} {serial : Nat} {c : Client}
    (made : setup.client serial = .ok c) : c.connection.endpoint.accessKey = setup.accessKey := by
  obtain ⟨url, options, _, rfl⟩ := exists_of_client made
  rfl

/-- A client that sends its requests over HTTP is one that a setup makes. -/
theorem Http.client_of_connect {serial : Nat} {uri : String} {key : List UInt8}
    {options : Options} {c : Client} (made : Http.connect serial uri key options = .ok c) :
    Setup.client ⟨uri, key, some options⟩ serial = .ok c := by
  unfold Http.connect at made
  split at made
  · exact made
  · cases made

namespace Handle

/-- A handle posts with the key that its client has. -/
def Holds (keys : Nat → List UInt8) (h : Handle) : Prop :=
  ∀ g, h.gateway? = some g → g.connection.endpoint.accessKey = keys g.connection.client

variable {keys : Nat → List UInt8} {h h' : Handle} {w w' : World}

/-- Handles with one connection post with one key. -/
theorem Holds.shares (holds : h.Holds keys) (shares : h.Shares h') : h'.Holds keys := by
  intro g' operates
  obtain ⟨g, operates, same⟩ := shares g' operates
  rw [same]
  exact holds g operates

/-- What is brought takes the connection of the handle, unless it is a client that is made. -/
theorem Issues.shares_or_made {command : Command} (issues : h.Issues command w w' h') :
    h.Shares h' ∨ ∃ setup c, command = .newClient setup ∧ h' = .client c
      ∧ setup.client c.connection.client = .ok c := by
  cases issues with
  | again => exact .inl fun g operates => ⟨g, operates, rfl⟩
  | owner d maker | parent c maker | collection d name maker | database c name serial maker =>
    subst maker
    left
    rintro _ ⟨rfl⟩
    exact ⟨_, rfl, rfl⟩
  | signal => exact .inl (by rintro _ ⟨⟩)
  | client c c' setup maker asked made => exact .inr ⟨setup, c', asked, rfl, made⟩
  | cursor g serial seed maker | stream g serial seed maker =>
    left
    rintro _ ⟨rfl⟩
    exact ⟨g, maker, rfl⟩

end Handle

/-! ## Keys in runs -/

namespace Session

variable {s : Session} {st : Step} {h : Handle} {keys : Nat → List UInt8} {steps : List Step}

/-- What a step posts goes over the connection of the handle in use. -/
theorem step_posts (known : s.handle? st.target = some h) {r : Request}
    (mem : r ∈ (s.step st).1.posted) :
    ∃ g envelope, h.gateway? = some g ∧ r = g.connection.request envelope := by
  have posts : h.Posts s.world (s.serve st h).2.2 := by
    rcases s.serving st h with ⟨v, became, _, _, same⟩ | ⟨service, served, same⟩
    · rw [show s.serve st h = _ from same s.world]
      exact Handle.posts_nothing rfl
    · rw [show s.serve st h = _ from same s.world]
      obtain ⟨requests, posted, all⟩ := Handle.service_posts served (limits st h s.world) s.world
      exact ⟨requests, (joined_apart _ _ _).1.trans posted, all⟩
  obtain ⟨requests, posted, all⟩ := posts
  rw [posted_of_serve known posted] at mem
  exact all r mem

/-- A client that a step makes has the key of its number. -/
def Records (keys : Nat → List UInt8) (s : Session) (st : Step) : Prop :=
  ∀ setup c, st.command = .newClient setup → (s.step st).1.verdict.handle? = some (.client c) →
    keys c.connection.client = setup.accessKey

/-- Each handle of a session posts with the key that its client has. -/
def HoldsKeys (keys : Nat → List UInt8) (s : Session) : Prop :=
  ∀ name h, s.handle? name = some h → h.Holds keys

/-- A step is made with the keys that clients have. -/
structure BearsKeys (keys : Nat → List UInt8) (s : Session) (st : Step) : Prop where
  /-- Each request is made on a handle, and it bears the key of the client of this handle. -/
  requests : ∀ r ∈ (s.step st).1.posted, ∃ h n, s.handle? st.target = some h ∧
    h.client? = some n ∧ r.Bears (keys n)
  /-- What is brought comes of the client of the handle, unless a client is made. -/
  brought : ∀ h h', s.handle? st.target = some h → (s.step st).1.verdict.handle? = some h' →
    ¬ st.command.BringsClient → ∀ n, h'.client? = some n → h.client? = some n
  /-- The handle stays with its client. -/
  stays : ∀ h h', s.handle? st.target = some h → (s.serve st h).2.1 = some h' →
    ∀ n, h'.client? = some n → h.client? = some n

/-- What a step brings takes the connection of the handle, unless it is a client that is made. -/
theorem shares_or_made (known : s.handle? st.target = some h) {h' : Handle}
    (brought : (s.step st).1.verdict.handle? = some h') :
    h.Shares h' ∨ ∃ setup c, st.command = .newClient setup ∧ h' = .client c
      ∧ setup.client c.connection.client = .ok c := by
  rw [step_of_handle known] at brought
  exact ((s.serve_provides st h).delivers h' brought).shares_or_made

/-- A step of a session whose handles hold the keys bears them. -/
theorem HoldsKeys.bearsKeys (holds : HoldsKeys keys s) (st : Step) : BearsKeys keys s st := by
  refine ⟨fun r mem => ?_, fun h h' known brought other n leads => ?_,
    fun h h' known became n leads => ?_⟩
  · rcases known : s.handle? st.target with _ | h
    · rw [step_of_none known] at mem
      cases mem
    · obtain ⟨g, envelope, operates, rfl⟩ := step_posts known mem
      refine ⟨h, g.connection.client, rfl, Handle.client_of_gateway? operates, ?_⟩
      rw [← holds _ h known g operates]
      exact g.connection.request_bears envelope
  · rcases shares_or_made known brought with shares | ⟨setup, c, asked, _⟩
    · exact shares.client? leads
    · rw [asked] at other
      exact absurd trivial other
  · exact ((s.serve_provides st h).becomes h' became).same.1.client? leads

/-- The handles after a step post with the keys of their clients, if a client that it makes has
the key of its number. -/
theorem HoldsKeys.step (holds : HoldsKeys keys s) (records : Records keys s st) :
    HoldsKeys keys (s.step st).2 := by
  rcases known : s.handle? st.target with _ | h
  · rw [step_of_none known]
    exact holds
  intro name h' found
  rcases handle?_step known found with became | came | old
  · exact (holds _ h known).shares ((s.serve_provides st h).becomes h' became).same.1
  · have brought : (s.step st).1.verdict.handle? = some h' := by
      rw [step_of_handle known]
      exact came
    rcases shares_or_made known brought with shares | ⟨setup, c, asked, rfl, made⟩
    · exact (holds _ h known).shares shares
    · rintro _ ⟨rfl⟩
      exact (Setup.key_of_client made).trans (records setup c asked brought).symm
  · exact holds name h' old

/-- Every step of a run bears the keys if the clients that it makes have them. -/
theorem HoldsKeys.run (holds : HoldsKeys keys s) (records : Always (Records keys) s steps) :
    Always (BearsKeys keys) s steps := by
  induction steps generalizing s with
  | nil => exact always_nil _ s
  | cons st rest ih =>
    obtain ⟨first, later⟩ := always_cons.mp records
    exact always_cons.mpr ⟨holds.bearsKeys st, ih (holds.step first) later⟩

/-- A client that is made has the next number, and the one after it is next. -/
theorem next_of_made {setup : Setup} {c : Client} (asked : st.command = .newClient setup)
    (brought : (s.step st).1.verdict.handle? = some (.client c)) :
    c.connection.client = s.world.next ∧ (s.step st).2.world.next = s.world.next + 1 := by
  have brings : st.command.BringsClient := by
    rw [asked]
    trivial
  rcases known : s.handle? st.target with _ | h
  · rw [step_of_none known] at brought
    cases brought
  · rw [step_of_handle known] at brought ⊢
    obtain ⟨next, _, c', same, number⟩ := serve_newClient brings brought
    cases same
    exact ⟨number, next⟩

/-- For every run there are the keys of the clients that it makes, and those of the clients from
before stay.  A client gets a new number, so its key can be entered when it is made. -/
theorem exists_records (s : Session) (steps : List Step) (old : Nat → List UInt8) :
    ∃ keys, (∀ n, n < s.world.next → keys n = old n) ∧ Always (Records keys) s steps := by
  induction steps generalizing s old with
  | nil => exact ⟨old, fun _ _ => rfl, always_nil _ s⟩
  | cons st rest ih =>
    by_cases making : ∃ setup c, st.command = .newClient setup
        ∧ (s.step st).1.verdict.handle? = some (.client c)
    · obtain ⟨setup, c, asked, brought⟩ := making
      obtain ⟨number, next⟩ := next_of_made asked brought
      obtain ⟨keys, agrees, later⟩ := ih (s.step st).2
        (Function.update old s.world.next setup.accessKey)
      refine ⟨keys, fun n lt => ?_, always_cons.mpr ⟨fun setup' c' asked' brought' => ?_, later⟩⟩
      · rw [agrees n (by omega), Function.update_of_ne (Nat.ne_of_lt lt)]
      · cases asked.symm.trans asked'
        cases brought.symm.trans brought'
        rw [number, agrees _ (by omega), Function.update_self]
    · obtain ⟨keys, agrees, later⟩ := ih (s.step st).2 old
      have grows := next_le_step s st
      exact ⟨keys, fun n lt => agrees n (Nat.lt_of_lt_of_le lt grows), always_cons.mpr
        ⟨fun setup c asked brought => absurd ⟨setup, c, asked, brought⟩ making, later⟩⟩

/-- A session begins with one client, which posts with the key of its setup. -/
theorem holdsKeys_start {remote : Remote} {name : String} {setup : Setup}
    (started : Session.start remote name setup = .ok s) (first : keys 0 = setup.accessKey) :
    HoldsKeys keys s := by
  obtain ⟨c, made, rfl⟩ := exists_made_of_start started
  intro other h found
  have one : [(name, Handle.client c)].lookup other = some h := found
  rw [List.lookup_cons] at one
  split at one <;> cases one
  rintro _ ⟨rfl⟩
  show c.connection.endpoint.accessKey = keys c.connection.client
  rw [Setup.key_of_client made, Setup.number_of_client made, first]

/-- A report of a run is that of one of its steps. -/
theorem exists_step_of_report {report : Report} (told : report ∈ (s.run steps).1) :
    ∃ before st after, steps = before ++ st :: after
      ∧ report = ((s.run before).2.step st).1 := by
  induction steps generalizing s with
  | nil => cases told
  | cons st rest ih =>
    rcases List.mem_cons.mp told with rfl | later
    · exact ⟨[], st, rest, rfl, rfl⟩
    · obtain ⟨before, st', after, rfl, same⟩ := ih later
      exact ⟨st :: before, st', after, rfl, same⟩

/-- The key of a client crosses whole with each of its requests.  There is a key for each client of
a run: the one of its setup.  Every request bears the key of the client of the handle in use, and
all handles that come of a client stay with it.  So in a run with a single key all requests bear
this key.  Requests that bear different keys have different headers, and clients that send their
requests over HTTP are made like all others. -/
theorem requests_bear_keys {remote : Remote} {name : String} {setup : Setup}
    (started : Session.start remote name setup = .ok s) (steps : List Step) :
    (∃ keys, keys 0 = setup.accessKey ∧ Always (Records keys) s steps)
      ∧ (∀ keys, keys 0 = setup.accessKey → Always (Records keys) s steps →
        Always (BearsKeys keys) s steps)
      ∧ ((∀ st ∈ steps, ∀ other, st.command = .newClient other →
          other.accessKey = setup.accessKey) →
        ∀ report ∈ (s.run steps).1, ∀ r ∈ report.posted, r.Bears setup.accessKey)
      ∧ (∀ r r' : Request, ∀ key key', r.Bears key → r'.Bears key' → key ≠ key' →
        r.credentials ≠ r'.credentials)
      ∧ ∀ serial uri key options c, Http.connect serial uri key options = .ok c →
        Setup.client ⟨uri, key, some options⟩ serial = .ok c := by
  have bears {keys : Nat → List UInt8} (first : keys 0 = setup.accessKey)
      (records : Always (Records keys) s steps) : Always (BearsKeys keys) s steps :=
    (holdsKeys_start started first).run records
  refine ⟨?_, fun keys first records => bears first records, fun single report told r mem => ?_,
    fun r r' key key' one two differ same => differ (one.key_eq two same),
    fun serial uri key options c made => Http.client_of_connect made⟩
  · obtain ⟨c, made, rfl⟩ := exists_made_of_start started
    obtain ⟨keys, agrees, records⟩ := exists_records
      ⟨(World.start remote).fresh.2, [(name, .client c)]⟩ steps fun _ => setup.accessKey
    exact ⟨keys, agrees 0 Nat.zero_lt_one, records⟩
  · have records : Always (Records fun _ => setup.accessKey) s steps := by
      intro before st after split other c asked _
      exact (single st (split ▸ List.mem_append_right _ (List.mem_cons_self ..)) other asked).symm
    obtain ⟨before, st, after, split, rfl⟩ := exists_step_of_report told
    obtain ⟨_, _, _, _, bearing⟩ := (bears rfl records before st after split).requests r mem
    exact bearing

/-- Two clients with keys of their own ask for the names of the databases, and each shows its
key. -/
theorem two_keys_are_borne :
    ∃ s, Session.start (.ofScript []) "one" ⟨"http://h/", [251, 255, 1, 254], some .standard⟩
        = .ok s
      ∧ (∃ keys, keys 0 = [251, 255, 1, 254] ∧ Always (BearsKeys keys) s
        [⟨"one", .listDatabaseNames, none, none, none⟩,
          ⟨"one", .newClient ⟨"http://h/", [1], some .standard⟩, some "two", none, none⟩,
          ⟨"two", .listDatabaseNames, none, none, none⟩])
      ∧ (s.run [⟨"one", .listDatabaseNames, none, none, none⟩,
          ⟨"one", .newClient ⟨"http://h/", [1], some .standard⟩, some "two", none, none⟩,
          ⟨"two", .listDatabaseNames, none, none, none⟩]).2.world.posted.map (·.headers)
        = [[("Authorization", "Basic :+/8B/g==")], [("Authorization", "Basic :AQ==")]] := by
  have told : (Session.start (.ofScript []) "one"
      ⟨"http://h/", [251, 255, 1, 254], some .standard⟩).toOption.map (fun s =>
        (s.run [⟨"one", .listDatabaseNames, none, none, none⟩,
          ⟨"one", .newClient ⟨"http://h/", [1], some .standard⟩, some "two", none, none⟩,
          ⟨"two", .listDatabaseNames, none, none, none⟩]).2.world.posted.map (·.headers))
      = some [[("Authorization", "Basic :+/8B/g==")], [("Authorization", "Basic :AQ==")]] := by
    decide +kernel
  rcases started : Session.start (.ofScript []) "one"
      ⟨"http://h/", [251, 255, 1, 254], some .standard⟩ with e | s
  · rw [started] at told
    cases told
  · rw [started] at told
    obtain ⟨⟨keys, first, records⟩, bears, _⟩ := requests_bear_keys started
      [⟨"one", .listDatabaseNames, none, none, none⟩,
        ⟨"one", .newClient ⟨"http://h/", [1], some .standard⟩, some "two", none, none⟩,
        ⟨"two", .listDatabaseNames, none, none, none⟩]
    exact ⟨s, rfl, ⟨keys, first, bears keys first records⟩, Option.some.inj told⟩

end Session

end RemoteDriver
