import RemoteDriver.Http
import RemoteDriver.Proofs.Closing.Runs
import RemoteDriver.Proofs.Isolation.Serving
import RemoteDriver.Proofs.Secrecy.Stateful

/-!
# Runs that differ in their keys

No service reads keys (`Handle.service_redacts`), and neither does anything else that a step does.
So a step of a redacted session is the redacted step (`Session.step_redacted`), and by induction
the same is so of a run.  Two runs with different keys are the same without them, and then they are
the same but for the values of `Authorization` headers (`Session.keys_stay_in_headers`).
-/

namespace RemoteDriver

open RemoteDriver.Action

/-! ## Services -/

namespace Handle

variable (h : Handle)

/-- Without its key a handle has the gateway without the key. -/
theorem gateway?_redacted : h.redacted.gateway? = h.gateway?.map Gateway.redacted := by
  cases h <;> rfl

/-- Whether handles are the same has nothing to do with keys. -/
theorem isSame?_redacted (other : Handle) :
    h.redacted.isSame? other.redacted = h.isSame? other := by
  cases h <;> cases other <;> rfl

/-- What leaves its handle as it is serves without a key what it serves with one. -/
theorem steady_redacts {t t' : Action Result} (redacts : Redacts Result.redacted t t') :
    ServiceRedacts (h.steady t) (h.redacted.steady t') := by
  intro limits w
  unfold steady
  rw [redacts]
  rfl

/-- The same of a service that there may be. -/
theorem map_steady_redacts {t t' : Option (Action Result)}
    (redacts : Option.Rel (Redacts Result.redacted) t t') :
    Option.Rel ServiceRedacts (t.map h.steady) (t'.map h.redacted.steady) := by
  cases redacts with
  | none => exact .none
  | some redacts => exact .some (h.steady_redacts redacts)

/-- Firing a close signal reads no key. -/
theorem signalled_redacts (subscription : Nat) (command : Command) :
    Option.Rel (Redacts Result.redacted) (signalled subscription command)
      (signalled subscription command.redacted) := by
  cases command
  case close =>
    have fires : Redacts id (change (·.fire subscription)) (change (·.fire subscription)) :=
      redacts_change fun w => w.fire_redacted subscription
    exact .some (redacts_bind fires fun _ => redacts_pure rfl)
  case isClosed =>
    have looked : Redacts id (look (·.hasFired subscription)) (look (·.hasFired subscription)) :=
      redacts_look fun _ => rfl
    exact .some (looked.return fun _ => rfl)
  all_goals exact .none

/-- What is special to a kind of handle reads no key. -/
theorem own_redacts (command : Command) :
    Option.Rel ServiceRedacts (h.own? command) (h.redacted.own? command.redacted) := by
  cases h with
  | client c => exact map_steady_redacts (client c) (c.own_redacts command)
  | database d => exact map_steady_redacts (database d) (d.own_redacts command)
  | collection c => exact map_steady_redacts (collection c) (c.own_redacts command)
  | cursor c => exact c.own_redacts command
  | changeStream s => exact s.own_redacts command
  | closeSignal subscription =>
    exact map_steady_redacts (closeSignal subscription) (signalled_redacts subscription command)

/-- Nothing that a handle makes of a command depends on a key. -/
theorem service_redacts (command : Command) :
    Option.Rel ServiceRedacts (h.service? command) (h.redacted.service? command.redacted) := by
  unfold service?
  rw [gateway?_redacted]
  rcases h.gateway? with _ | g
  · exact h.own_redacts command
  · have shared := g.common_redacts command
    dsimp only [Option.map_some, Option.bind_some]
    generalize common? g command = t at shared ⊢
    generalize common? g.redacted command.redacted = t' at shared ⊢
    cases shared with
    | none => exact h.own_redacts command
    | some redacts => exact .some (h.steady_redacts redacts)

end Handle

/-! ## Sessions without keys -/

/-- A step without the key of a client that it makes. -/
def Step.redacted (step : Step) : Step := { step with command := step.command.redacted }

/-- A verdict without the keys of the handles in it; there are none in an error. -/
def Verdict.redacted : Verdict → Verdict
  | result r => result r.redacted
  | other => other

/-- A report without keys. -/
def Report.redacted (r : Report) : Report :=
  { r with verdict := r.verdict.redacted, posted := r.posted.map Request.redacted }

/-- A session without keys. -/
def Session.redacted (s : Session) : Session where
  world := s.world.redacted
  handles := s.handles.map (Prod.map id Handle.redacted)

/-- The handle in an outcome without keys is the handle without its key. -/
theorem Outcome.handle?_redacted (o : Outcome) :
    o.redacted.handle? = o.handle?.map Handle.redacted := by
  cases o <;> rfl

/-- The handle in a result without keys is the handle without its key. -/
theorem Result.handle?_redacted (r : Result) :
    r.redacted.handle? = r.handle?.map Handle.redacted := by
  cases r with
  | outcome o => exact o.handle?_redacted
  | converted o =>
    rcases o with _ | o
    · rfl
    · exact o.handle?_redacted
  | _ => rfl

/-- The handle in a verdict without keys is the handle without its key. -/
theorem Verdict.handle?_redacted (v : Verdict) :
    v.redacted.handle? = v.handle?.map Handle.redacted := by
  cases v with
  | result r => exact r.handle?_redacted
  | _ => rfl

/-- How a step ends is told without a look at the keys in its result. -/
theorem Verdict.ofExcept_redacted (r : Except Halt Result) :
    ofExcept (r.map Result.redacted) = (ofExcept r).redacted := by
  rcases r with (_ | _) | _ <;> rfl

namespace Session

variable (s : Session) (st : Step) (h : Handle)

/-- A name stands for the same handle with and without keys. -/
theorem handle?_redacted (name : String) :
    s.redacted.handle? name = (s.handle? name).map Handle.redacted := by
  obtain ⟨w, handles⟩ := s
  unfold handle? redacted
  dsimp only
  induction handles with
  | nil => rfl
  | cons entry rest ih =>
    rw [List.map_cons, List.lookup_cons, List.lookup_cons, ih]
    dsimp only [Prod.map, id]
    cases name == entry.1 <;> rfl

/-! ## Serving -/

/-- How long a step may take depends on no key. -/
theorem limits_redacted (w : World) :
    limits st.redacted h.redacted w.redacted = limits st h w := by
  have closing : st.redacted.closing h.redacted w.now = st.closing h w.now := by
    unfold Step.closing
    rw [show st.redacted.closeAfter = st.closeAfter from rfl]
    cases h <;> rcases st.closeAfter with _ | span <;> rfl
  exact congrArg (Limits.mk (st.deadline w.now)) closing

/-- Waiting for a close signal reads no key. -/
theorem joined_redacted (limits : Limits) (w : World) (r : Except Halt Result) :
    joined limits w.redacted r = ((joined limits w r).1, (joined limits w r).2.redacted) := by
  unfold joined
  split
  · dsimp only
    split
    · split
      · rw [w.fire_redacted]
      · rfl
    · rfl
  · split
    · split
      · rw [w.fire_redacted]
        rfl
      · rfl
    · rfl

/-- What is concluded of a service reads no keys if the service reads none. -/
theorem conclude_redacted {service service' : Service} (redacts : ServiceRedacts service service')
    (limits : Limits) (w : World) : conclude limits (service' limits w.redacted)
      = ((conclude limits (service limits w)).1.redacted,
        (conclude limits (service limits w)).2.1.map Handle.redacted,
        (conclude limits (service limits w)).2.2.redacted) := by
  rw [redacts]
  unfold conclude
  dsimp only
  rw [joined_map, joined_redacted, Verdict.ofExcept_redacted]

/-- A command that is about the handles of the session, not only about its own. -/
def concernsSession : Command → Bool
  | .forget => true
  | .compare _ => true
  | _ => false

/-- All other commands are left to the handle. -/
theorem serve_of_not_concernsSession (left : concernsSession st.command = false) :
    s.serve st h = ((h.service? st.command).map fun service =>
      conclude (limits st h s.world) (service (limits st h s.world) s.world)).getD
        (.notOffered, some h, s.world) := by
  unfold serve
  split
  · next forget =>
    rw [forget] at left
    cases left
  · next other compare =>
    rw [compare] at left
    cases left
  · rcases h.service? st.command <;> rfl

/-- A handle is served alike with and without keys. -/
theorem serve_redacted : s.redacted.serve st.redacted h.redacted
    = ((s.serve st h).1.redacted, (s.serve st h).2.1.map Handle.redacted,
      (s.serve st h).2.2.redacted) := by
  by_cases left : concernsSession st.command = false
  · have left' : concernsSession st.redacted.command = false := by
      show concernsSession st.command.redacted = false
      cases command : st.command <;> rw [command] at left <;> first | rfl | exact left
    have services : Option.Rel ServiceRedacts (h.service? st.command)
        (h.redacted.service? st.redacted.command) := h.service_redacts st.command
    rw [serve_of_not_concernsSession _ _ _ left, serve_of_not_concernsSession _ _ _ left']
    generalize h.service? st.command = service? at services
    generalize h.redacted.service? st.redacted.command = service'? at services
    cases services with
    | none => rfl
    | some redacts =>
      rw [Option.map_some, Option.map_some, Option.getD_some, Option.getD_some,
        show s.redacted.world = s.world.redacted from rfl, limits_redacted]
      exact conclude_redacted redacts _ _
  · obtain ⟨target, command, keep, cancelAfter, closeAfter⟩ := st
    cases command
    case forget => rfl
    case compare other =>
      have compared : (s.redacted.handle? other).bind h.redacted.isSame?
          = (s.handle? other).bind h.isSame? := by
        rw [handle?_redacted]
        rcases s.handle? other with _ | h'
        · rfl
        · exact h.isSame?_redacted h'
      show (Verdict.result (.comparison ((s.redacted.handle? other).bind h.redacted.isSame?)),
        some h.redacted, s.world.redacted) = _
      rw [compared]
      rfl
    all_goals exact absurd rfl left

/-! ## Steps -/

/-- A handle is kept under a name without a look at its key. -/
theorem kept_redacted (handles : List (String × Handle)) (name : String) :
    kept (handles.map (Prod.map id Handle.redacted)) name h.redacted
      = (kept handles name h).map (Prod.map id Handle.redacted) := by
  unfold kept
  rw [List.filter_map]
  rfl

/-- A name is given up without a look at the keys of handles. -/
theorem without_redacted (handles : List (String × Handle)) (name : String) :
    without (handles.map (Prod.map id Handle.redacted)) name
      = (without handles name).map (Prod.map id Handle.redacted) := by
  unfold without
  rw [List.filter_map]
  rfl

/-- Handles lead to the same clients with and without keys. -/
theorem clients_redacted (handles : List (String × Handle)) :
    clients (handles.map (Prod.map id Handle.redacted)) = clients handles := by
  unfold clients
  rw [List.filterMap_map]
  congr 1
  funext ⟨name, h⟩
  cases h <;> rfl

/-- The handles that a step leaves are the same but for keys. -/
theorem handlesAfter_redacted (became : Option Handle) (v : Verdict) :
    s.redacted.handlesAfter st.redacted (became.map Handle.redacted) v.redacted
      = (s.handlesAfter st became v).map (Prod.map id Handle.redacted) := by
  have handles : s.redacted.handles = s.handles.map (Prod.map id Handle.redacted) := rfl
  unfold handlesAfter
  rw [v.handle?_redacted, handles, show st.redacted.keep = st.keep from rfl,
    show st.redacted.target = st.target from rfl]
  cases became <;> cases st.keep <;> cases v.handle? <;>
    simp only [Option.map_none, Option.map_some, without_redacted, kept_redacted]

/-- Which clients are let go depends on no key. -/
theorem settled_redacted (w : World) (handles : List (String × Handle)) :
    settled { s.redacted with world := w.redacted } (handles.map (Prod.map id Handle.redacted))
      = (settled { s with world := w } handles).redacted := by
  unfold settled
  rw [clients_redacted, show ({ s.redacted with world := w.redacted } : Session).handles
    = s.handles.map (Prod.map id Handle.redacted) from rfl, clients_redacted]
  rfl

/-- A step of a session without keys is the step without keys. -/
theorem step_redacted :
    s.redacted.step st.redacted = ((s.step st).1.redacted, (s.step st).2.redacted) := by
  have found : s.redacted.handle? st.redacted.target = (s.handle? st.target).map Handle.redacted :=
    s.handle?_redacted st.target
  rcases known : s.handle? st.target with _ | h
  · rw [known] at found
    rw [step_of_none known, step_of_none found]
    rfl
  · rw [known] at found
    have posted (w : World) : w.redacted.posted.drop s.redacted.world.posted.length
        = (w.posted.drop s.world.posted.length).map Request.redacted := by
      show (w.posted.map _).drop (s.world.posted.map _).length = _
      rw [List.length_map, List.map_drop]
    rw [step_of_handle known, step_of_handle found, serve_redacted, handlesAfter_redacted,
      settled_redacted, posted]
    rfl

/-- A run of a session without keys is the run without keys. -/
theorem run_redacted (steps : List Step) : s.redacted.run (steps.map Step.redacted)
    = ((s.run steps).1.map Report.redacted, (s.run steps).2.redacted) := by
  induction steps generalizing s with
  | nil => rfl
  | cons st rest ih =>
    rw [List.map_cons, run_cons, run_cons, step_redacted, ih]
    rfl

end Session

/-! ## Two runs -/

/-- Two reports that are the same but for keys. -/
structure Report.SameButKeys (r r' : Report) : Prop where
  /-- They end alike: with one error, or with results that differ in the keys of handles alone. -/
  verdict : r.verdict.redacted = r'.verdict.redacted
  /-- As many requests were posted in the same order, and they differ in their keys alone. -/
  posted : List.Forall₂ Request.SameButKey r.posted r'.posted
  /-- They took the same time. -/
  elapsed : r.elapsed = r'.elapsed

/-- Two sessions that are the same but for keys. -/
structure Session.SameButKeys (s s' : Session) : Prop where
  /-- The worlds and all handles are the same without their keys. -/
  redacted : s.redacted = s'.redacted
  /-- The requests posted so far differ in their keys alone. -/
  posted : List.Forall₂ Request.SameButKey s.world.posted s'.world.posted
  /-- Clients that are the same without their keys are described alike. -/
  clients : ∀ c c' : Client, c.redacted = c'.redacted →
    c.description s.world = c'.description s'.world
  /-- So are their endpoints. -/
  endpoints : ∀ c c' : Client, c.redacted = c'.redacted →
    c.connection.endpoint.description = c'.connection.endpoint.description

/-- Requests are the same without keys if each differs in its header at most. -/
theorem Request.map_redacted_eq_iff {rs rs' : List Request} :
    rs.map redacted = rs'.map redacted ↔ List.Forall₂ SameButKey rs rs' := by
  rw [← List.forall₂_eq_eq_eq, List.forall₂_map_left_iff, List.forall₂_map_right_iff]
  simp only [redacted_eq_iff]

/-- Reports that are the same without their keys are the same but for keys. -/
theorem Report.sameButKeys {r r' : Report} (same : r.redacted = r'.redacted) :
    r.SameButKeys r' := by
  injection same with verdict posted elapsed
  exact ⟨verdict, Request.map_redacted_eq_iff.mp posted, elapsed⟩

/-- Runs that report the same without keys report the same but for keys, step by step. -/
theorem Report.forall₂_sameButKeys {rs rs' : List Report}
    (same : rs.map redacted = rs'.map redacted) : List.Forall₂ SameButKeys rs rs' := by
  rw [← List.forall₂_eq_eq_eq, List.forall₂_map_left_iff, List.forall₂_map_right_iff] at same
  exact same.imp fun _ _ => sameButKeys

/-- Sessions that are the same without keys have the same state but for keys. -/
theorem Session.sameButKeys {s s' : Session} (same : s.redacted = s'.redacted) :
    s.SameButKeys s' := by
  have world : s.world.redacted = s'.world.redacted := congrArg Session.world same
  refine ⟨same, Request.map_redacted_eq_iff.mp (congrArg World.posted world), ?_, ?_⟩
  · intro c c' same'
    rw [← c.description_redacted s.world, ← c'.description_redacted s'.world, same', world]
  · intro c c' same'
    have endpoint : c.connection.endpoint.redacted = c'.connection.endpoint.redacted :=
      congrArg (fun c => c.connection.endpoint) same'
    rw [← Endpoint.description_redacted, endpoint, Endpoint.description_redacted]

/-! ## Beginnings -/

/-- A client that is connected over HTTP without its key is the client that is connected, without
its key. -/
theorem Http.connect_redacted (serial : Nat) (uri : String) (key : List UInt8)
    (options : Options) : connect serial uri (Endpoint.standIn key) options
      = (connect serial uri key options).map Client.redacted := by
  unfold connect
  cases checkUserAgent options.appName with
  | ok _ => exact Client.ofOptions_redacted serial uri key options
  | error e => rfl

namespace Session

/-- A session that is started without its key is the session that is started, without its key. -/
theorem start_redacted (remote : Remote) (name : String) (setup : Setup) :
    start remote name setup.redacted = (start remote name setup).map redacted := by
  unfold start
  dsimp only
  rw [setup.client_redacted]
  cases setup.client (World.start remote).fresh.1 <;> rfl

/-- Two runs of sessions that are the same without their keys, with steps that are. -/
theorem run_alike {s s' : Session} (same : s.redacted = s'.redacted) {steps steps' : List Step}
    (alike : steps.map Step.redacted = steps'.map Step.redacted) :
    List.Forall₂ Report.SameButKeys (s.run steps).1 (s'.run steps').1
      ∧ (s.run steps).2.SameButKeys (s'.run steps').2 := by
  have runs : ((s.run steps).1.map Report.redacted, (s.run steps).2.redacted)
      = ((s'.run steps').1.map Report.redacted, (s'.run steps').2.redacted) := by
    rw [← run_redacted, ← run_redacted, same, alike]
  injection runs with reports after
  exact ⟨Report.forall₂_sameButKeys reports, sameButKeys after⟩

/-- A key is told by nothing but the value of a header.  Two runs that differ in their keys alone,
of which none is empty, both fail to start with one error, or they report the same throughout and
leave the same session, but for the values of `Authorization` headers.  Clients that are connected
over HTTP with these keys are the same without them. -/
theorem keys_stay_in_headers (remote : Remote) (name uri : String) (options : Option Options)
    {key key' : List UInt8} (keyed : key ≠ []) (keyed' : key' ≠ []) {steps steps' : List Step}
    (alike : steps.map Step.redacted = steps'.map Step.redacted) :
    ((∃ e, start remote name ⟨uri, key, options⟩ = .error e
        ∧ start remote name ⟨uri, key', options⟩ = .error e)
      ∨ ∃ s s', start remote name ⟨uri, key, options⟩ = .ok s
        ∧ start remote name ⟨uri, key', options⟩ = .ok s'
        ∧ List.Forall₂ Report.SameButKeys (s.run steps).1 (s'.run steps').1
        ∧ (s.run steps).2.SameButKeys (s'.run steps').2)
      ∧ ∀ serial known, (Http.connect serial uri key known).map Client.redacted
        = (Http.connect serial uri key' known).map Client.redacted := by
  have standIns : Endpoint.standIn key = Endpoint.standIn key' := by
    unfold Endpoint.standIn
    rw [List.isEmpty_eq_false_iff.mpr keyed, List.isEmpty_eq_false_iff.mpr keyed']
  have setups : Setup.redacted ⟨uri, key, options⟩ = Setup.redacted ⟨uri, key', options⟩ := by
    unfold Setup.redacted
    dsimp only
    rw [standIns]
  have started : (start remote name ⟨uri, key, options⟩).map redacted
      = (start remote name ⟨uri, key', options⟩).map redacted := by
    rw [← start_redacted, ← start_redacted, setups]
  constructor
  · rcases first : start remote name ⟨uri, key, options⟩ with e | s <;>
      rcases second : start remote name ⟨uri, key', options⟩ with e' | s' <;>
      rw [first, second] at started
    · injection started with same
      exact .inl ⟨e, rfl, congrArg Except.error same.symm⟩
    · cases started
    · cases started
    · injection started with same
      exact .inr ⟨s, s', rfl, rfl, run_alike same alike⟩
  · intro serial known
    rw [← Http.connect_redacted, ← Http.connect_redacted, standIns]

/-- Two clients ask for the names of the databases; only the headers tell which client it was. -/
theorem two_keys_stay_in_headers :
    ([1] : List UInt8) ≠ [] ∧ ([2] : List UInt8) ≠ []
      ∧ ∃ s s', start (.ofScript []) "client" ⟨"http://h/", [1], some .standard⟩ = .ok s
        ∧ start (.ofScript []) "client" ⟨"http://h/", [2], some .standard⟩ = .ok s'
        ∧ List.Forall₂ Report.SameButKeys
          (s.run [⟨"client", .listDatabaseNames, none, none, none⟩]).1
          (s'.run [⟨"client", .listDatabaseNames, none, none, none⟩]).1
        ∧ (s.run [⟨"client", .listDatabaseNames, none, none, none⟩]).2.SameButKeys
          (s'.run [⟨"client", .listDatabaseNames, none, none, none⟩]).2
        ∧ (s.run [⟨"client", .listDatabaseNames, none, none, none⟩]).2.world.posted.map (·.headers)
          = [[("Authorization", "Basic :AQ==")]] := by
  have told : (start (.ofScript []) "client"
      ⟨"http://h/", [1], some .standard⟩).toOption.map (fun s =>
        (s.run [⟨"client", .listDatabaseNames, none, none, none⟩]).2.world.posted.map (·.headers))
      = some [[("Authorization", "Basic :AQ==")]] := by
    decide +kernel
  refine ⟨by decide, by decide, ?_⟩
  rcases (keys_stay_in_headers (.ofScript []) "client" "http://h/" (some .standard)
    (show ([1] : List UInt8) ≠ [] by decide) (show ([2] : List UInt8) ≠ [] by decide)
    (rfl : [(⟨"client", .listDatabaseNames, none, none, none⟩ : Step)].map Step.redacted = _)).1
    with ⟨e, failed, _⟩ | ⟨s, s', starts, starts', reports, after⟩
  · rw [failed] at told
    cases told
  · rw [starts] at told
    exact ⟨s, s', starts, starts', reports, after, Option.some.inj told⟩

end Session

end RemoteDriver
