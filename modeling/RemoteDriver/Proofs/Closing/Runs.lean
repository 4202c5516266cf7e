import RemoteDriver.Proofs.Closing.Serving

/-!
# Runs of sessions and closed clients

A client that has been closed stays closed, whatever is done with it, with its clones, with the
handles obtained from it, or with other clients.  Nothing is posted for it any more, and a step that
would have posted something fails with an error that names the operation (`Answered`); the other
clients of the session take no notice (`Shut`).

The comparison with an open client is carried from services to steps by `Serving`, and from steps to
runs by induction on the run.  That new clients are open needs an invariant: no number is in use
before it is given away (`Sound`).
-/

namespace RemoteDriver

namespace Session

variable {s : Session} {st : Step} {h : Handle} {n : Nat}

/-! ## Steps -/

/-- A step on a handle is the service of its command and the keeping of handles. -/
theorem step_of_handle (known : s.handle? st.target = some h) : s.step st
    = (⟨(s.serve st h).1, (s.serve st h).2.2.posted.drop s.world.posted.length,
        (s.serve st h).2.2.now - s.world.now⟩,
      settled { s with world := (s.serve st h).2.2 }
        (s.handlesAfter st (s.serve st h).2.1 (s.serve st h).1)) := by
  unfold Session.step
  rw [known]

/-- A step on no handle does nothing. -/
theorem step_of_none (unknown : s.handle? st.target = none) :
    s.step st = (⟨.noHandle, [], 0⟩, s) := by
  unfold Session.step
  rw [unknown]

/-- A name that is given up stands for nothing, and the others for what they stood for. -/
theorem lookup_without (handles : List (String × Handle)) (name other : String) :
    (without handles name).lookup other
      = if other = name then none else handles.lookup other := by
  induction handles with
  | nil =>
    split <;> rfl
  | cons entry rest ih =>
    obtain ⟨key, h⟩ := entry
    unfold without at ih ⊢
    by_cases same : key = name
    · subst same
      rw [List.filter_cons_of_neg (by simp), ih]
      by_cases here : other = key
      · rw [if_pos here, if_pos here]
      · rw [if_neg here, if_neg here, List.lookup_cons, beq_false_of_ne here]
    · rw [List.filter_cons_of_pos (by simpa using same), List.lookup_cons, List.lookup_cons, ih]
      by_cases here : other = key
      · subst here
        simp [same]
      · rw [beq_false_of_ne here]

/-- A name that is given stands for its handle, and the others for what they stood for. -/
theorem lookup_kept (handles : List (String × Handle)) (name other : String) (h : Handle) :
    (kept handles name h).lookup other
      = if other = name then some h else handles.lookup other := by
  have rest := lookup_without handles name other
  unfold without at rest
  unfold kept
  rw [List.lookup_cons, rest]
  by_cases here : other = name
  · subst here
    simp
  · rw [beq_false_of_ne here, if_neg here, if_neg here]

/-- After a step there are the handles without the one in use, or with what it has become, and
perhaps what the step has brought. -/
theorem handlesAfter_cases (s : Session) (st : Step) (became : Option Handle) (v : Verdict) :
    ∃ mine, (mine = without s.handles st.target
        ∨ ∃ h, became = some h ∧ mine = kept s.handles st.target h)
      ∧ (s.handlesAfter st became v = mine
        ∨ ∃ name h, v.handle? = some h ∧ s.handlesAfter st became v = kept mine name h) := by
  unfold handlesAfter
  cases became with
  | none =>
    refine ⟨_, .inl rfl, ?_⟩
    dsimp only
    split
    · next name h _ brought => exact .inr ⟨name, h, brought, rfl⟩
    · exact .inl rfl
  | some h =>
    refine ⟨_, .inr ⟨h, rfl, rfl⟩, ?_⟩
    dsimp only
    split
    · next name h _ brought => exact .inr ⟨name, h, brought, rfl⟩
    · exact .inl rfl

/-- What a name stands for after a step: what was brought and is kept under it, or what the handle
in use has become, or what it stood for before. -/
theorem lookup_step (known : s.handle? st.target = some h) (name : String) :
    (s.step st).2.handle? name
      = (if st.keep = some name then (s.serve st h).1.handle? else none).or
          (if name = st.target then (s.serve st h).2.1 else s.handle? name) := by
  have kept_or (other : String) (h' : Handle) (rest : Option Handle) :
      (if name = other then some h' else rest)
        = (if other = name then some h' else none).or rest := by
    by_cases here : name = other
    · rw [if_pos here, if_pos here.symm]
      rfl
    · rw [if_neg here, if_neg (Ne.symm here)]
      rfl
  rw [step_of_handle known]
  show (s.handlesAfter st (s.serve st h).2.1 (s.serve st h).1).lookup name = _
  generalize (s.serve st h).2.1 = became
  generalize (s.serve st h).1 = v
  unfold handlesAfter
  rcases became with _ | h' <;> rcases st.keep with _ | other <;> rcases v.handle? with _ | h'' <;>
    simp [lookup_kept, lookup_without, handle?, kept_or]

/-- A name stands after a step for what the step has brought, or for what the handle in use has
become, or for what it stood for before. -/
theorem found_step (known : s.handle? st.target = some h) {name : String} {h' : Handle}
    (found : (s.step st).2.handle? name = some h') :
    (st.keep = some name ∧ (s.serve st h).1.handle? = some h')
      ∨ (name = st.target ∧ (s.serve st h).2.1 = some h')
      ∨ (name ≠ st.target ∧ s.handle? name = some h') := by
  rw [lookup_step known, Option.or_eq_some_iff] at found
  rcases found with brought | ⟨_, stays⟩
  · split at brought
    · next keeps => exact .inl ⟨keeps, brought⟩
    · cases brought
  · split at stays
    · next here => exact .inr (.inl ⟨here, stays⟩)
    · next other => exact .inr (.inr ⟨other, stays⟩)

/-- A handle after a step is one from before it, or what the handle in use has become, or what the
step has brought. -/
theorem handle?_step (known : s.handle? st.target = some h) {name : String} {h' : Handle}
    (found : (s.step st).2.handle? name = some h') :
    (s.serve st h).2.1 = some h' ∨ (s.serve st h).1.handle? = some h'
      ∨ s.handle? name = some h' := by
  rcases found_step known found with ⟨_, brought⟩ | ⟨_, became⟩ | ⟨_, old⟩
  · exact .inr (.inl brought)
  · exact .inl became
  · exact .inr (.inr old)

/-! ## What holds throughout a session -/

/-- Every entry is the one that its name stands for. -/
def Indexed (handles : List (String × Handle)) : Prop :=
  ∀ name h, (name, h) ∈ handles → handles.lookup name = some h

/-- Giving a name up leaves each entry the one of its name. -/
theorem Indexed.without {handles : List (String × Handle)} (indexed : Indexed handles)
    (name : String) : Indexed (without handles name) := by
  intro other h mem
  obtain ⟨mem, ne⟩ := List.mem_filter.mp mem
  rw [lookup_without, if_neg (by simpa using ne)]
  exact indexed other h mem

/-- Giving a name leaves each entry the one of its name. -/
theorem Indexed.kept {handles : List (String × Handle)} (indexed : Indexed handles)
    (name : String) (h : Handle) : Indexed (kept handles name h) := by
  intro other h' mem
  rw [lookup_kept]
  rcases List.mem_cons.mp mem with same | mem
  · cases same
    exact if_pos rfl
  · obtain ⟨mem, ne⟩ := List.mem_filter.mp mem
    rw [if_neg (by simpa using ne)]
    exact indexed other h' mem

/-- A session in which numbers have been given away in order. -/
structure Sound (s : Session) : Prop where
  /-- No number is the number of a closed client before it is given away. -/
  closed_lt : ∀ m, s.world.isClosed m = true → m < s.world.next
  /-- Nor does a handle lead to a client of such a number. -/
  client_lt : ∀ name h m, s.handle? name = some h → h.client? = some m → m < s.world.next
  /-- Each name stands for one handle. -/
  indexed : Indexed s.handles

/-- A session begins with the client that is made from its setup. -/
theorem exists_made_of_start {remote : Remote} {name : String} {setup : Setup}
    (started : Session.start remote name setup = .ok s) : ∃ c : Client, setup.client 0 = .ok c
      ∧ s = ⟨(World.start remote).fresh.2, [(name, .client c)]⟩ := by
  unfold Session.start at started
  dsimp only at started
  split at started
  · next c made =>
    cases started
    exact ⟨c, made, rfl⟩
  · cases started

/-- A session begins with one client, which gets the first number. -/
theorem exists_client_of_start {remote : Remote} {name : String} {setup : Setup}
    (started : Session.start remote name setup = .ok s) : ∃ c : Client, c.connection.client = 0
      ∧ s = ⟨(World.start remote).fresh.2, [(name, .client c)]⟩ := by
  obtain ⟨c, made, same⟩ := exists_made_of_start started
  exact ⟨c, Setup.number_of_client made, same⟩

/-- A session begins with its numbers in order. -/
theorem sound_start {remote : Remote} {name : String} {setup : Setup}
    (started : Session.start remote name setup = .ok s) : Sound s := by
  obtain ⟨c, number, rfl⟩ := exists_client_of_start started
  constructor
  · intro m closed
    cases closed
  · intro other h m known leads
    have one : [(name, Handle.client c)].lookup other = some h := known
    rw [List.lookup_cons] at one
    split at one
    · cases one
      cases leads
      rw [number]
      exact Nat.zero_lt_one
    · cases one
  · intro other h mem
    cases List.mem_singleton.mp mem
    simp

/-- Who has been closed after a step was closed before it or is the client in use. -/
theorem closed_of_serve {m : Nat} (closed : (s.serve st h).2.2.isClosed m = true) :
    s.world.isClosed m = true ∨ h.client? = some m := by
  by_cases mine : h.client? = some m
  · exact .inr mine
  · obtain ⟨other, belongs, ne⟩ := exists_belongsTo mine
    rcases (serve_moves belongs).closes m closed with closed | same
    · exact .inl closed
    · exact absurd same.symm ne

/-- Where a handle belongs to whomever another one belongs to, it leads to the same client. -/
theorem client?_of_belongs {h' : Handle} {m : Nat}
    (implies : ∀ client, h.BelongsTo client → h'.BelongsTo client) (hm : h'.client? = some m) :
    h.client? = some m := by
  by_cases mine : h.client? = some m
  · exact mine
  · obtain ⟨other, belongs, ne⟩ := exists_belongsTo mine
    exact absurd (implies other belongs m hm).symm ne

/-- Who a handle leads to after a step: the handle is an old one, or it leads to the client in use,
or it is a new client. -/
theorem client_of_step (known : s.handle? st.target = some h) {name : String} {h' : Handle}
    {m : Nat} (found : (s.step st).2.handle? name = some h') (hm : h'.client? = some m) :
    s.handle? name = some h' ∨ h.client? = some m
      ∨ (m = s.world.next ∧ (s.serve st h).2.2.next = s.world.next + 1) := by
  rcases handle?_step known found with became | brought | old
  · right
    left
    exact client?_of_belongs (fun client belongs => (serve_belongs belongs).1 h' became) hm
  · right
    by_cases brings : st.command.BringsClient
    · right
      obtain ⟨next, _, c, rfl, number⟩ := serve_newClient brings brought
      refine ⟨?_, next⟩
      rw [← number]
      exact (Option.some.inj hm).symm
    · left
      refine client?_of_belongs (fun client belongs => ?_) hm
      exact (serve_belongs belongs).2 brings h' brought
  · exact .inl old

/-- The entries stay in order when handles are kept. -/
theorem Indexed.handlesAfter (indexed : Indexed s.handles) (st : Step) (became : Option Handle)
    (v : Verdict) : Indexed (s.handlesAfter st became v) := by
  obtain ⟨mine, own, brought⟩ := s.handlesAfter_cases st became v
  have ordered : Indexed mine := by
    rcases own with rfl | ⟨h, _, rfl⟩
    · exact indexed.without st.target
    · exact indexed.kept st.target h
  rcases brought with same | ⟨name, h, _, same⟩
  · rw [same]
    exact ordered
  · rw [same]
    exact ordered.kept name h

/-- Numbers are not taken back. -/
theorem next_le_step (s : Session) (st : Step) : s.world.next ≤ (s.step st).2.world.next := by
  rcases known : s.handle? st.target with _ | h
  · have same := congrArg (·.2.world.next) (step_of_none known)
    exact Nat.le_of_eq same.symm
  · obtain ⟨client, belongs⟩ := h.exists_client
    rw [step_of_handle known]
    exact (serve_moves belongs).next_le

/-- A step gives numbers away in order. -/
theorem Sound.step (sound : Sound s) (st : Step) : Sound (s.step st).2 := by
  rcases known : s.handle? st.target with _ | h
  · rw [step_of_none known]
    exact sound
  have grows := next_le_step s st
  constructor
  · intro m closed
    refine Nat.lt_of_lt_of_le ?_ grows
    rw [step_of_handle known] at closed
    rcases closed_of_serve closed with closed | mine
    · exact sound.closed_lt m closed
    · exact sound.client_lt st.target h m known mine
  · intro name h' m found hm
    rcases client_of_step known found hm with old | mine | ⟨new, next⟩
    · exact Nat.lt_of_lt_of_le (sound.client_lt name h' m old hm) grows
    · exact Nat.lt_of_lt_of_le (sound.client_lt st.target h m known mine) grows
    · rw [step_of_handle known, new]
      show s.world.next < (s.serve st h).2.2.next
      rw [next]
      exact Nat.lt_succ_self _
  · rw [step_of_handle known]
    exact sound.indexed.handlesAfter st _ _

/-- Whatever is done in a session, it stays in order. -/
theorem Sound.run (sound : Sound s) (steps : List Step) : Sound (s.run steps).2 := by
  induction steps generalizing s with
  | nil => exact sound
  | cons st rest ih => exact ih (sound.step st)

/-! ## Steps on a closed client -/

/-- What a step tells if its command fails with this error.  A step that still waits for a close
signal when its caller stops waiting has no result. -/
def Tells (s : Session) (st : Step) (h : Handle) (v : Verdict) (e : Error) : Prop :=
  ((limits st h s.world).InTime → v.complaint? = some e)
    ∧ (¬ (limits st h s.world).InTime → v = .abandoned)

/-- A step whose command fails tells the failure, unless it has no result. -/
theorem tells_conclude {out : Except Halt Result × Option Handle × World} {e : Error}
    (told : complaint? out.1 = some e) :
    Tells s st h (conclude (limits st h s.world) out).1 e := by
  refine ⟨fun inTime => ?_, fun late => ?_⟩
  · unfold conclude
    rw [joined_of_inTime inTime]
    exact (complaint?_ofExcept out.1).trans told
  · unfold conclude
    rw [joined_of_not_inTime late]
    rfl

/-- A step gets as far as a call of this operation: its first request is for it, or the call is
refused for an argument that cannot be sent. -/
def GetsAsFarAs (s : Session) (st : Step) (h : Handle) (operation : String) : Prop :=
  (∃ request rest, (s.step st).1.posted = request :: rest ∧ request.envelope.operation = operation)
    ∨ ((s.step st).1.posted = []
      ∧ ∃ cause, Tells s st h (s.step st).1.verdict (Envelope.refused operation cause))

/-- How a step on a handle of a client ends that has been closed. -/
inductive Answered (n : Nat) (s : Session) (st : Step) (h : Handle) : Prop
  /-- It gets as far as no call, and so ends as if the client were open. -/
  | unsent (same : (s.reopened n).step st = ((s.step st).1, (s.step st).2.reopened n))
  /-- Were the client open, the step would get as far as a call; so this call is refused. -/
  | refused (operation : String)
      (told : Tells s st h (s.step st).1.verdict (Connection.closedError operation))
      (reaches : GetsAsFarAs (s.reopened n) st h operation)
  /-- It is about the closing of the client, and changes nothing. -/
  | closing (about : h.IsAboutItsClosing st.command) (still : (s.step st).2.world = s.world)
      (idle : ((s.reopened n).step st).1.posted = [])

/-- A step that serves alike in the session with the client open is alike. -/
theorem step_reopened (known : s.handle? st.target = some h)
    (same : (s.reopened n).serve st h
      = ((s.serve st h).1, (s.serve st h).2.1, (s.serve st h).2.2.reopened n)) :
    (s.reopened n).step st = ((s.step st).1, (s.step st).2.reopened n) := by
  have known' : (s.reopened n).handle? st.target = some h := known
  rw [step_of_handle known, step_of_handle known', same]
  rfl

/-- What a step posts is what the serving of its command posts. -/
theorem posted_of_serve (known : s.handle? st.target = some h) {more : List Request}
    (posted : (s.serve st h).2.2.posted = s.world.posted ++ more) :
    (s.step st).1.posted = more := by
  rw [step_of_handle known]
  show (s.serve st h).2.2.posted.drop s.world.posted.length = more
  rw [posted, List.drop_left]

/-- A step on a handle of a closed client posts nothing, and it is told why if it gets as far as a
call. -/
theorem answered_of_other (known : s.handle? st.target = some h)
    (closed : s.world.isClosed n = true) (belongs : h.BelongsTo n)
    (other : ¬ h.IsAboutItsClosing st.command) :
    Answered n s st h ∧ (s.serve st h).2.2.posted = s.world.posted := by
  have known' : (s.reopened n).handle? st.target = some h := known
  rcases s.serving st h with ⟨v, became, _, _, same⟩ | ⟨service, offered, same⟩
  · have here : s.serve st h = (v, became, s.world) := same s.world
    have there : (s.reopened n).serve st h = (v, became, s.world.reopened n) := same _
    refine ⟨.unsent (step_reopened known ?_), ?_⟩
    · rw [here, there]
    · rw [here]
  · have here : s.serve st h
        = conclude (limits st h s.world) (service (limits st h s.world) s.world) := same s.world
    have there : (s.reopened n).serve st h = conclude (limits st h s.world)
        (service (limits st h s.world) (s.world.reopened n)) := same (s.world.reopened n)
    -- the call is compared with the one in the world where the client has not been closed
    have compared := (Handle.service_gated offered belongs other).compares n
      (limits st h s.world) s.world fun _ => closed
    generalize service (limits st h s.world) s.world = out at here compared
    generalize service (limits st h s.world) (s.world.reopened n) = out' at there compared
    have posted : (s.serve st h).2.2.posted = out.2.2.posted := by
      rw [here]
      exact (joined_apart _ _ _).1
    have posted' : ((s.reopened n).serve st h).2.2.posted = out'.2.2.posted := by
      rw [there]
      exact (joined_apart _ _ _).1
    cases compared with
    | alike same quiet =>
      refine ⟨.unsent (step_reopened known ?_), posted.trans (quiet rfl)⟩
      have first : out'.1 = out.1 := congrArg (fun p => p.1.1) same
      have second : out'.2.1 = out.2.1 := congrArg (fun p => p.1.2) same
      have third : out'.2.2 = out.2.2.reopened n := congrArg (fun p => p.2) same
      rw [here, there]
      unfold conclude
      rw [first, second, third, joined_reopened]
    | gated _ operation quiet told reaches =>
      refine ⟨.refused operation ?_ ?_, posted.trans quiet⟩
      · rw [step_of_handle known, here]
        exact tells_conclude told
      · rcases reaches with ⟨request, rest, sent, named⟩ | ⟨still, cause, refused⟩
        · exact .inl ⟨request, rest, posted_of_serve known' (posted'.trans sent), named⟩
        · refine .inr ⟨posted_of_serve known' ?_, cause, ?_⟩
          · rw [List.append_nil]
            exact posted'.trans still
          · rw [step_of_handle known', there]
            exact tells_conclude refused

/-! ## Closing again -/

/-- A client has no close signal to wait for. -/
theorem conclude_client (st : Step) (c : Client) (w : World)
    (out : Except Halt Result × Option Handle × World) :
    conclude (limits st (.client c) w) out = (.ofExcept out.1, out.2.1, out.2.2) := by
  unfold conclude
  rw [joined_of_none rfl]

/-- A command about the closing of a client that has been closed changes nothing. -/
theorem serve_of_about {c : Client} (about : st.command.ConcernsClosing)
    (closed : s.world.isClosed c.connection.client = true) :
    ∃ v : Verdict, v.handle? = none
      ∧ s.serve st (.client c) = (v, some (.client c), s.world) := by
  obtain ⟨service, offered, settles⟩ := c.settlesClosing about
  have here := serve_of_service (s := s) offered
  rw [conclude_client] at here
  rcases settles with ⟨e, rfl⟩ | ⟨r, plain, rfl⟩ | rfl
  · exact ⟨.failed e, rfl, here⟩
  · dsimp only at here
    rw [World.close_of_isClosed _ closed] at here
    exact ⟨.result r, plain, here⟩
  · exact ⟨_, rfl, here⟩

/-- A command about the closing of a client posts nothing. -/
theorem posted_of_about {c : Client} (about : st.command.ConcernsClosing) :
    (s.serve st (.client c)).2.2.posted = s.world.posted := by
  obtain ⟨service, offered, settles⟩ := c.settlesClosing about
  rw [serve_of_service offered, conclude_client]
  rcases settles with ⟨e, rfl⟩ | ⟨r, plain, rfl⟩ | rfl
  · rfl
  · show (s.world.close c.connection.client).posted = s.world.posted
    unfold World.close
    split <;> rfl
  · rfl

/-- A client whose handle stays what it is does not lose it. -/
theorem settled_kept (indexed : Indexed s.handles) {name : String}
    (known : s.handle? name = some h) :
    (settled s (kept s.handles name h)).world = s.world := by
  have all (m : Nat) (mem : m ∈ clients s.handles) : m ∈ clients (kept s.handles name h) := by
    obtain ⟨⟨name', h'⟩, entry, leads⟩ := List.mem_filterMap.mp mem
    apply List.mem_filterMap.mpr
    by_cases same : name' = name
    · subst same
      have one : h' = h := Option.some.inj ((indexed name' h' entry).symm.trans known)
      refine ⟨(name', h), List.mem_cons_self, ?_⟩
      rw [← one]
      exact leads
    · refine ⟨(name', h'), List.mem_cons_of_mem _ (List.mem_filter.mpr ⟨entry, ?_⟩), leads⟩
      simpa using same
  have none : (clients s.handles).filter
      (fun client => !(clients (kept s.handles name h)).contains client) = [] := by
    rw [List.filter_eq_nil_iff]
    intro m mem
    simpa using all m mem
  unfold settled
  rw [none, List.append_nil]

/-- A step that serves without changing anything changes nothing. -/
theorem step_of_still (indexed : Indexed s.handles) (known : s.handle? st.target = some h)
    {v : Verdict} (plain : v.handle? = none) (still : s.serve st h = (v, some h, s.world)) :
    (s.step st).1.verdict = v ∧ (s.step st).2.world = s.world
      ∧ ∀ name, (s.step st).2.handle? name = s.handle? name := by
  have after : s.handlesAfter st (some h) v = kept s.handles st.target h := by
    unfold handlesAfter
    rw [plain]
    cases st.keep <;> rfl
  rw [step_of_handle known, still]
  dsimp only
  rw [after]
  refine ⟨rfl, settled_kept indexed known, fun name => ?_⟩
  show (kept s.handles st.target h).lookup name = s.handles.lookup name
  rw [lookup_kept]
  by_cases here : name = st.target
  · rw [if_pos here, here]
    exact known.symm
  · rw [if_neg here]

/-! ## A closed client -/

/-- A step on a handle of a closed client posts nothing, whatever it is about. -/
theorem answered_of_closed (sound : Sound s) (closed : s.world.isClosed n = true)
    (known : s.handle? st.target = some h) (belongs : h.BelongsTo n) :
    Answered n s st h ∧ (s.serve st h).2.2.posted = s.world.posted := by
  by_cases about : h.IsAboutItsClosing st.command
  · obtain ⟨⟨c, rfl⟩, about'⟩ := about
    have mine : c.connection.client = n := belongs _ rfl
    have known' : (s.reopened n).handle? st.target = some (.client c) := known
    obtain ⟨v, plain, still⟩ := serve_of_about about' (mine ▸ closed)
    have changes := (step_of_still sound.indexed known plain still).2.1
    have idle : ((s.reopened n).step st).1.posted = [] := by
      apply posted_of_serve known'
      rw [List.append_nil]
      exact posted_of_about about'
    exact ⟨.closing ⟨⟨c, rfl⟩, about'⟩ changes idle, posted_of_about about'⟩
  · exact answered_of_other known closed belongs about

/-- Handles that are obtained from handles of a client are its handles, but for other clients. -/
theorem belongs_of_step (known : s.handle? st.target = some h) (belongs : h.BelongsTo n)
    (plain : ¬ st.command.BringsClient) {name : String} {h' : Handle}
    (found : (s.step st).2.handle? name = some h') :
    s.handle? name = some h' ∨ h'.BelongsTo n := by
  rcases handle?_step known found with became | brought | old
  · exact .inr ((serve_belongs belongs).1 h' became)
  · exact .inr ((serve_belongs belongs).2 plain h' brought)
  · exact .inl old

/-- A client tells whether it is closed. -/
theorem verdict_isClosed {c : Client} (known : s.handle? st.target = some (.client c))
    (asks : st.command = .isClosed) :
    (s.step st).1.verdict = .result (.truth (s.world.isClosed c.connection.client)) := by
  have offered : (Handle.client c).service? st.command = some _ := asks ▸ c.service_isClosed
  rw [step_of_handle known, serve_of_service offered, conclude_client]
  rfl

/-- Closing a closed client succeeds and changes nothing. -/
theorem step_close (indexed : Indexed s.handles) {c : Client}
    (known : s.handle? st.target = some (.client c)) (closes : st.command = .close)
    (closed : s.world.isClosed c.connection.client = true) :
    (s.step st).1.verdict = .result .done ∧ (s.step st).2.world = s.world
      ∧ ∀ name, (s.step st).2.handle? name = s.handle? name := by
  have offered : (Handle.client c).service? st.command = some _ := closes ▸ c.service_close
  apply step_of_still indexed known rfl
  rw [serve_of_service offered, conclude_client]
  show (Verdict.result .done, some (Handle.client c), s.world.close c.connection.client) = _
  rw [World.close_of_isClosed _ closed]

/-- A client that is made was not closed before, and it is open. -/
theorem open_of_newClient (sound : Sound s) (known : s.handle? st.target = some h)
    (brings : st.command.BringsClient) {c : Client}
    (brought : (s.step st).1.verdict.handle? = some (.client c)) :
    s.world.isClosed c.connection.client = false
      ∧ (s.step st).2.world.isClosed c.connection.client = false := by
  rw [step_of_handle known] at brought ⊢
  obtain ⟨_, same, c', made, number⟩ := serve_newClient brings brought
  cases made
  have isOpen : s.world.isClosed c.connection.client = false := by
    rcases h : s.world.isClosed c.connection.client with _ | _
    · rfl
    · have lt := sound.closed_lt _ h
      rw [number] at lt
      exact absurd lt (Nat.lt_irrefl _)
  constructor
  · exact isOpen
  · show ((s.serve st h).2.2.closed.contains c.connection.client) = false
    rw [same]
    exact isOpen

/-- What holds of a client that has been closed, whatever is done next. -/
structure Shut (n : Nat) (s : Session) : Prop where
  /-- It is closed. -/
  closed : s.world.isClosed n = true
  /-- A step on one of its handles posts nothing. -/
  silent : ∀ st h, s.handle? st.target = some h → h.BelongsTo n →
    (s.step st).1.posted = [] ∧ (s.step st).2.world.posted = s.world.posted
  /-- A step that gets as far as a call fails, and the error names the operation. -/
  answers : ∀ st h, s.handle? st.target = some h → h.BelongsTo n → Answered n s st h
  /-- Handles that are obtained from its handles are its handles, but for other clients. -/
  descends : ∀ st h, s.handle? st.target = some h → h.BelongsTo n →
    ¬ st.command.BringsClient → ∀ name h', (s.step st).2.handle? name = some h' →
      s.handle? name = some h' ∨ h'.BelongsTo n
  /-- It tells that it is closed. -/
  asked : ∀ st c, s.handle? st.target = some (.client c) → c.connection.client = n →
    st.command = .isClosed → (s.step st).1.verdict = .result (.truth true)
  /-- Closing it again succeeds and changes nothing. -/
  again : ∀ st c, s.handle? st.target = some (.client c) → c.connection.client = n →
    st.command = .close → (s.step st).1.verdict = .result .done
      ∧ (s.step st).2.world = s.world ∧ ∀ name, (s.step st).2.handle? name = s.handle? name
  /-- A step on any other handle is as if the client were open. -/
  apart : ∀ st h, s.handle? st.target = some h → h.client? ≠ some n →
    (s.reopened n).step st = ((s.step st).1, (s.step st).2.reopened n)
  /-- A client that is made separately is another one, and open. -/
  fresh : ∀ st h c, s.handle? st.target = some h → st.command.BringsClient →
    (s.step st).1.verdict.handle? = some (.client c) →
      c.connection.client ≠ n ∧ (s.step st).2.world.isClosed c.connection.client = false

/-- A client that has been closed is shut from then on. -/
theorem shut_of_closed (sound : Sound s) (closed : s.world.isClosed n = true) : Shut n s where
  closed := closed
  silent := by
    intro st h known belongs
    have quiet := (answered_of_closed sound closed known belongs).2
    constructor
    · exact posted_of_serve known (quiet.trans (List.append_nil _).symm)
    · rw [step_of_handle known]
      exact quiet
  answers := by
    intro st h known belongs
    exact (answered_of_closed sound closed known belongs).1
  descends := by
    intro st h known belongs plain name h' found
    exact belongs_of_step known belongs plain found
  asked := by
    intro st c known mine asks
    rw [verdict_isClosed known asks, mine, closed]
  again := by
    intro st c known mine closes
    exact step_close sound.indexed known closes (mine ▸ closed)
  apart := by
    intro st h known other
    exact step_reopened known (serve_reopened other)
  fresh := by
    intro st h c known brings brought
    obtain ⟨before, after⟩ := open_of_newClient sound known brings brought
    refine ⟨?_, after⟩
    rintro rfl
    rw [before] at closed
    cases closed

/-! ## Runs -/

/-- A run takes its first step and goes on from there. -/
theorem run_cons (s : Session) (st : Step) (rest : List Step) : s.run (st :: rest)
    = ((s.step st).1 :: ((s.step st).2.run rest).1, ((s.step st).2.run rest).2) := rfl

/-- All steps of a run are on handles of a kind, or on none. -/
def Along (kind : Handle → Prop) : Session → List Step → Prop
  | _, [] => True
  | s, st :: rest =>
    (∀ h, s.handle? st.target = some h → kind h) ∧ Along kind (s.step st).2 rest

/-- A step does not open a client again. -/
theorem isClosed_step (closed : s.world.isClosed n = true) (st : Step) :
    (s.step st).2.world.isClosed n = true := by
  rcases known : s.handle? st.target with _ | h
  · rw [step_of_none known]
    exact closed
  · obtain ⟨client, belongs⟩ := h.exists_client
    rw [step_of_handle known]
    exact (serve_moves belongs).stays n closed

/-- A closed client stays closed in any run. -/
theorem isClosed_run (closed : s.world.isClosed n = true) (steps : List Step) :
    (s.run steps).2.world.isClosed n = true := by
  induction steps generalizing s with
  | nil => exact closed
  | cons st rest ih => exact ih (isClosed_step closed st)

/-- Runs on handles of a closed client leave the log as it is. -/
theorem posted_run (sound : Sound s) (closed : s.world.isClosed n = true) {steps : List Step}
    (mine : Along (·.BelongsTo n) s steps) :
    (s.run steps).2.world.posted = s.world.posted := by
  induction steps generalizing s with
  | nil => rfl
  | cons st rest ih =>
    obtain ⟨first, later⟩ := mine
    refine (ih (sound.step st) (isClosed_step closed st) later).trans ?_
    rcases known : s.handle? st.target with _ | h
    · rw [step_of_none known]
    · exact ((shut_of_closed sound closed).silent st h known (first h known)).2

/-- Runs on other handles are as if a client had not been closed. -/
theorem run_reopened {steps : List Step} (others : Along (·.client? ≠ some n) s steps) :
    (s.reopened n).run steps = ((s.run steps).1, (s.run steps).2.reopened n) := by
  induction steps generalizing s with
  | nil => rfl
  | cons st rest ih =>
    obtain ⟨first, later⟩ := others
    have same : (s.reopened n).step st = ((s.step st).1, (s.step st).2.reopened n) := by
      rcases known : s.handle? st.target with _ | h
      · have known' : (s.reopened n).handle? st.target = none := known
        rw [step_of_none known, step_of_none known']
      · exact step_reopened known (serve_reopened (first h known))
    rw [run_cons, run_cons, same]
    dsimp only
    rw [ih later]

/-- A step closes a client: it is asked to close itself, or called to do so by name with arguments
that fit. -/
def Closes (s : Session) (st : Step) (c : Client) : Prop :=
  s.handle? st.target = some (.client c) ∧ (st.command = .close
    ∨ ∃ call into r, st.command = .invoke call into ∧ call.name = "close"
        ∧ (s.step st).1.verdict = .result r)

/-- A client that is closed for the first time is closed without a request. -/
theorem Closes.closed {c : Client} (closes : s.Closes st c) :
    (s.step st).2.world.isClosed c.connection.client = true
      ∧ (s.step st).2.world.posted = s.world.posted := by
  obtain ⟨known, how⟩ := closes
  have about : st.command.ConcernsClosing := by
    rcases how with close | ⟨call, into, _, invoke, named, _⟩
    · rw [close]
      trivial
    · rw [invoke]
      exact named
  constructor
  · rw [step_of_handle known]
    rcases how with close | ⟨call, into, r, invoke, named, fits⟩
    · have offered : (Handle.client c).service? st.command = some _ := close ▸ c.service_close
      rw [serve_of_service offered, conclude_client]
      exact s.world.isClosed_close _
    · obtain ⟨service, offered, settles⟩ := c.service_invoke_close named into
      rw [← invoke] at offered
      rw [step_of_handle known, serve_of_service offered, conclude_client] at fits
      rw [serve_of_service offered, conclude_client]
      rcases settles with ⟨e, rfl⟩ | rfl
      · cases fits
      · exact s.world.isClosed_close _
  · rw [step_of_handle known]
    exact posted_of_about about

/-- A closed client never sends again.  From the step on that closes it, whatever is done in the
session: it is shut, so that no step on its handles posts anything and every one that gets as far as
a call is told so; the log does not grow as long as only its handles are used; and as long as only
others are used, all is as if it had not been closed. -/
theorem closed_client_never_sends {remote : Remote} {name : String} {setup : Setup}
    (started : Session.start remote name setup = .ok s) (before : List Step) {closing : Step}
    {c : Client} (closes : (s.run before).2.Closes closing c) (after : List Step) :
    let shut := ((s.run before).2.step closing).2
    let later := (shut.run after).2
    shut.world.posted = (s.run before).2.world.posted
      ∧ Shut c.connection.client later
      ∧ (Along (·.BelongsTo c.connection.client) shut after →
          later.world.posted = shut.world.posted)
      ∧ (Along (·.client? ≠ some c.connection.client) shut after →
          (shut.reopened c.connection.client).run after
            = ((shut.run after).1, later.reopened c.connection.client)) := by
  intro shut later
  have sound : Sound shut := ((sound_start started).run before).step closing
  obtain ⟨closed, quiet⟩ := closes.closed
  refine ⟨quiet, ?_, ?_, ?_⟩
  · exact shut_of_closed (sound.run after) (isClosed_run closed after)
  · intro mine
    exact posted_run sound closed mine
  · intro others
    exact run_reopened others

/-- A session with one client, which is closed and then asked for what needs a call. -/
theorem single_closed_client_never_sends :
    ∃ s c, Session.start (.ofScript []) "client" ⟨"http://h/", [], some .standard⟩ = .ok s
      ∧ s.Closes ⟨"client", .close, none, none, none⟩ c
      ∧ ((s.step ⟨"client", .close, none, none, none⟩).2.run
          [⟨"client", .serverInfo, none, none, none⟩]).2.world.posted = []
      ∧ Shut c.connection.client ((s.step ⟨"client", .close, none, none, none⟩).2.run
          [⟨"client", .serverInfo, none, none, none⟩]).2 := by
  have starts : (Session.start (.ofScript []) "client" ⟨"http://h/", [], some .standard⟩).isOk
      = true := by decide +kernel
  rcases started : Session.start (.ofScript []) "client" ⟨"http://h/", [], some .standard⟩
    with e | s
  · rw [started] at starts
    cases starts
  · obtain ⟨c, _, same⟩ := exists_client_of_start started
    have closes : s.Closes ⟨"client", .close, none, none, none⟩ c := by
      refine ⟨?_, .inl rfl⟩
      rw [same]
      rfl
    obtain ⟨quiet, shut, log, _⟩ := closed_client_never_sends started [] closes
      [⟨"client", .serverInfo, none, none, none⟩]
    refine ⟨s, c, rfl, closes, ?_, shut⟩
    have mine : (Handle.client c).BelongsTo c.connection.client := Handle.belongsTo rfl
    refine (log ⟨?_, trivial⟩).trans (quiet.trans ?_)
    · intro h found
      rcases belongs_of_step closes.1 mine id found with old | own
      · cases closes.1.symm.trans old
        exact mine
      · exact own
    · rw [same]
      rfl

end Session

end RemoteDriver
