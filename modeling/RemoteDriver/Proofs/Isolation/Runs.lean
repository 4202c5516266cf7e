import RemoteDriver.Proofs.Isolation.Serving

/-!
# Handles by themselves

Cursors and change streams may be used in any order, a step on this one and a step on that one.  If
the remote side answers different handles from different queues, each of them fares as if it were
the only one in use: it has the same results, posts the same requests, takes the same time, and is
left with the same state (`Session.handles_isolated`).

The run of all steps is compared with the run of the steps on one handle.  The two sessions are
`Alongside` each other: their worlds look the same to the handle, and the names of the handle stand
for the same.  A step on the handle is taken in both of them, and a step on another handle only in
the first one.
-/

namespace RemoteDriver

/-- A report without the number of what was opened. -/
def Report.unnumbered (r : Report) : Report := { r with verdict := r.verdict.unnumbered }

namespace Session

variable {s s' : Session} {st : Step} {h : Handle} {number : String → Nat} {n : Nat}
  {steps rest : List Step}

/-! ## Steps of handles -/

/-- The steps of a run are on handles with a state of their own, and a name belongs to the handle
with a number. -/
structure Assigned (number : String → Nat) (s : Session) (steps : List Step) : Prop where
  /-- The handle that a step is on has the number of its name. -/
  held : ∀ st ∈ steps, ∀ h, s.handle? st.target = some h → h.number? = some (number st.target)
  /-- What a step brings is kept under a name of the same number. -/
  kept : ∀ st ∈ steps, ∀ name, st.keep = some name → number name = number st.target
  /-- Another handle that is opened is left behind. -/
  left : ∀ st ∈ steps, st.command.OpensHandles → st.keep = none

/-- The handles keep their numbers. -/
theorem Assigned.step (assigned : Assigned number s (st :: rest)) :
    Assigned number (s.step st).2 rest := by
  have later {st' : Step} (mem : st' ∈ rest) : st' ∈ st :: rest := List.mem_cons_of_mem st mem
  refine ⟨fun st' mem h' found => ?_, fun st' mem => assigned.kept st' (later mem),
    fun st' mem => assigned.left st' (later mem)⟩
  rcases known : s.handle? st.target with _ | h
  · rw [step_of_none known] at found
    exact assigned.held st' (later mem) h' found
  have mine := assigned.held st List.mem_cons_self h known
  rcases found_step known found with ⟨keeps, brought⟩ | ⟨here, became⟩ | ⟨_, old⟩
  · have own : ¬ st.command.OpensHandles := by
      intro opens
      cases keeps.symm.trans (assigned.left st List.mem_cons_self opens)
    rw [assigned.kept st List.mem_cons_self _ keeps]
    exact number?_of_serve mine own brought
  · have becomes := (s.serve_provides st h).becomes h' became
    rw [becomes.same.2.2.2, here]
    exact mine
  · exact assigned.held st' (later mem) h' old

/-! ## Sessions alongside each other -/

/-- A session in which several handles are used, and one in which only the handle with this number
is used. -/
structure Alongside (number : String → Nat) (n : Nat) (s s' : Session) : Prop where
  /-- Their worlds look the same to the handle. -/
  worlds : ∃ span, (Vantage.mk n span s.world.posted s'.world.posted).Beside s.world s'.world
  /-- The names of the handle stand for the same. -/
  handles : ∀ name, number name = n → s.handle? name = s'.handle? name

/-- A session is alongside itself. -/
theorem alongside_self (number : String → Nat) (n : Nat) (s : Session) :
    Alongside number n s s :=
  ⟨⟨0, rfl, rfl, rfl, rfl, fun _ => rfl,
    ⟨[], (List.append_nil _).symm, (List.append_nil _).symm⟩⟩, fun _ _ => rfl⟩

/-- The reports on a command that is served alike tell of the same requests and the same time. -/
theorem report_of_alike {span : Nat} (known : s.handle? st.target = some h)
    (known' : s'.handle? st.target = some h)
    (beside : (Vantage.mk n span s.world.posted s'.world.posted).Beside s.world s'.world)
    (served : ServeAlike (Vantage.mk n span s.world.posted s'.world.posted) st (s.serve st h)
      (s'.serve st h)) :
    (s.step st).1 = { (s'.step st).1 with verdict := (s.serve st h).1 } := by
  obtain ⟨more, posted, posted'⟩ := served.beside.posted
  have elapsed : (s.serve st h).2.2.now - s.world.now
      = (s'.serve st h).2.2.now - s'.world.now := by
    rw [served.beside.now, beside.now, Nat.add_sub_add_right]
  rw [step_of_handle known, step_of_handle known']
  dsimp only at posted posted' ⊢
  rw [posted, posted', List.drop_left, List.drop_left, elapsed]

/-- A step on the handle is alike in both sessions. -/
theorem Alongside.own (along : Alongside number n s s')
    (assigned : Assigned number s (st :: rest)) (mine : number st.target = n) :
    (s.step st).1.unnumbered = (s'.step st).1.unnumbered
      ∧ (¬ st.command.OpensHandles → (s.step st).1 = (s'.step st).1)
      ∧ Alongside number n (s.step st).2 (s'.step st).2 := by
  have alike := along.handles st.target mine
  rcases known : s.handle? st.target with _ | h
  · rw [step_of_none known, step_of_none (alike.symm.trans known)]
    exact ⟨rfl, fun _ => rfl, along⟩
  have known' := alike.symm.trans known
  obtain ⟨span, beside⟩ := along.worlds
  have numbered : h.number? = some n := mine ▸ assigned.held st List.mem_cons_self h known
  have served := serve_alike st numbered beside
  have report := report_of_alike known known' beside served
  have verdict : (s'.step st).1.verdict = (s'.serve st h).1 := by rw [step_of_handle known']
  refine ⟨?_, fun plain => ?_, ⟨span, ?_⟩, fun name own => ?_⟩
  · unfold Report.unnumbered
    rw [report, verdict, ← served.unnumbered]
  · rw [report, served.verdict plain, ← verdict]
  · rw [step_of_handle known, step_of_handle known']
    exact { served.beside.rebased with }
  · rw [lookup_step known, lookup_step known', served.became, along.handles name own]
    by_cases keeps : st.keep = some name
    · have plain : ¬ st.command.OpensHandles := by
        intro opens
        cases keeps.symm.trans (assigned.left st List.mem_cons_self opens)
      rw [served.verdict plain]
    · rw [if_neg keeps, if_neg keeps]

/-- A step on another handle is taken in the first session only. -/
theorem Alongside.other (along : Alongside number n s s')
    (assigned : Assigned number s (st :: rest)) (ne : number st.target ≠ n)
    (separates : s.world.remote.Separates) : Alongside number n (s.step st).2 s' := by
  rcases known : s.handle? st.target with _ | h
  · rw [step_of_none known]
    exact along
  obtain ⟨span, beside⟩ := along.worlds
  have mine := assigned.held st List.mem_cons_self h known
  obtain ⟨span', beside'⟩ := beside.spared (serve_spares mine ne separates)
  refine ⟨⟨span', ?_⟩, fun name own => ?_⟩
  · rw [step_of_handle known]
    exact { beside' with }
  · have other : name ≠ st.target := fun same => ne (same ▸ own)
    have elsewhere : st.keep ≠ some name := fun keeps =>
      ne ((assigned.kept st List.mem_cons_self name keeps).symm.trans own)
    rw [lookup_step known, if_neg elsewhere, if_neg other]
    exact along.handles name own

/-! ## Runs -/

/-- A step leaves the queues of the remote side apart. -/
theorem separates_step (separates : s.world.remote.Separates) (st : Step) :
    (s.step st).2.world.remote.Separates := by
  rcases known : s.handle? st.target with _ | h
  · rw [step_of_none known]
    exact separates
  · rw [step_of_handle known]
    exact separates.of_queueOf (s.serve_queueOf st h)

/-- Whatever is done in a session, the remote side answers from different queues. -/
theorem separates_run (separates : s.world.remote.Separates) (steps : List Step) :
    (s.run steps).2.world.remote.Separates := by
  induction steps generalizing s with
  | nil => exact separates
  | cons st rest ih => exact ih (separates_step separates st)

/-- The steps of a run that are on the handle with a number. -/
def stepsOf (number : String → Nat) (n : Nat) (steps : List Step) : List Step :=
  steps.filter fun st => decide (number st.target = n)

/-- The reports of a run on the steps that are on the handle with a number. -/
def reportsOf (number : String → Nat) (n : Nat) (s : Session) (steps : List Step) : List Report :=
  ((steps.zip (s.run steps).1).filter fun entry => decide (number entry.1.target = n)).map (·.2)

/-- A step on the handle is one of its steps. -/
theorem stepsOf_cons_own (mine : number st.target = n) (rest : List Step) :
    stepsOf number n (st :: rest) = st :: stepsOf number n rest :=
  List.filter_cons_of_pos (decide_eq_true mine)

/-- A step on another handle is none of its steps. -/
theorem stepsOf_cons_other (other : number st.target ≠ n) (rest : List Step) :
    stepsOf number n (st :: rest) = stepsOf number n rest :=
  List.filter_cons_of_neg (by simpa using other)

/-- A step on the handle is reported to it. -/
theorem reportsOf_cons_own (s : Session) (mine : number st.target = n) (rest : List Step) :
    reportsOf number n s (st :: rest) = (s.step st).1 :: reportsOf number n (s.step st).2 rest := by
  unfold reportsOf
  rw [run_cons, List.zip_cons_cons, List.filter_cons_of_pos, List.map_cons]
  exact decide_eq_true mine

/-- A step on another handle is not reported to it. -/
theorem reportsOf_cons_other (s : Session) (other : number st.target ≠ n) (rest : List Step) :
    reportsOf number n s (st :: rest) = reportsOf number n (s.step st).2 rest := by
  unfold reportsOf
  rw [run_cons, List.zip_cons_cons, List.filter_cons_of_neg]
  simpa using other

/-- A run is taken along on one handle, step by step. -/
theorem Alongside.run (along : Alongside number n s s') (assigned : Assigned number s steps)
    (separates : s.world.remote.Separates) :
    (reportsOf number n s steps).map Report.unnumbered
        = (s'.run (stepsOf number n steps)).1.map Report.unnumbered
      ∧ ((∀ st ∈ stepsOf number n steps, ¬ st.command.OpensHandles) →
        reportsOf number n s steps = (s'.run (stepsOf number n steps)).1)
      ∧ Alongside number n (s.run steps).2 (s'.run (stepsOf number n steps)).2 := by
  -- the induction is on all steps; the second session stays behind at steps on other handles
  induction steps generalizing s s' with
  | nil => exact ⟨rfl, fun _ => rfl, along⟩
  | cons st rest ih =>
    have separates' := separates_step separates st
    by_cases mine : number st.target = n
    · obtain ⟨report, same, along'⟩ := along.own assigned mine
      obtain ⟨reports, all, after⟩ := ih along' assigned.step separates'
      rw [s.reportsOf_cons_own mine, stepsOf_cons_own mine, run_cons, run_cons]
      refine ⟨?_, fun plain => ?_, after⟩
      · rw [List.map_cons, List.map_cons, report, reports]
      · obtain ⟨first, later⟩ := List.forall_mem_cons.mp plain
        rw [same first, all later]
    · have along' := along.other assigned mine separates
      obtain ⟨reports, after⟩ := ih along' assigned.step separates'
      rw [s.reportsOf_cons_other mine, stepsOf_cons_other mine, run_cons]
      exact ⟨reports, after⟩

/-! ## Numbers of handles -/

/-- No two names stand for one cursor or for one change stream. -/
def Distinct (s : Session) : Prop :=
  ∀ name name' h h' m, s.handle? name = some h → s.handle? name' = some h' →
    h.opened? = some m → h'.opened? = some m → name = name'

/-- What is opened gets a number that has not been in use. -/
theorem next_le_of_issues {command : Command} {w w' : World} {h' : Handle} {m : Nat}
    (issues : h.Issues command w w' h') (opened : h'.opened? = some m) : w.next ≤ m := by
  cases issues with
  | again stateless =>
    rw [Handle.number?_of_opened? opened] at stateless
    cases stateless
  | owner | parent | collection | signal | database | client => cases opened
  | cursor g serial seed maker gave | stream g serial seed maker gave =>
    cases opened
    exact gave.1

/-- A cursor or a change stream after a step was brought by it, with a new number, or had its name
before. -/
theorem opened_step (known : s.handle? st.target = some h) {name : String} {h' : Handle} {m : Nat}
    (found : (s.step st).2.handle? name = some h') (opened : h'.opened? = some m) :
    (st.keep = some name ∧ s.world.next ≤ m)
      ∨ ∃ old, s.handle? name = some old ∧ old.opened? = some m := by
  have provides := s.serve_provides st h
  rcases found_step known found with ⟨keeps, brought⟩ | ⟨here, became⟩ | ⟨_, stays⟩
  · exact .inl ⟨keeps, next_le_of_issues (provides.delivers h' brought) opened⟩
  · have same := (provides.becomes h' became).same.2.2.1
    exact .inr ⟨h, here ▸ known, same.symm.trans opened⟩
  · exact .inr ⟨h', stays, opened⟩

/-- A step gives no second name to a cursor or a change stream. -/
theorem Distinct.step {a : Atlas} (distinct : s.Distinct) (mapped : Mapped a s) (st : Step) :
    (s.step st).2.Distinct := by
  intro name name' h h' m found found' opened opened'
  rcases known : s.handle? st.target with _ | used
  · rw [step_of_none known] at found found'
    exact distinct name name' h h' m found found' opened opened'
  have numbered {name : String} {old : Handle} (found : s.handle? name = some old)
      (opened : old.opened? = some m) : m < s.world.next :=
    (mapped.numbered name old found).own m (Handle.number?_of_opened? opened)
  rcases opened_step known found opened with ⟨keeps, new⟩ | ⟨old, before, had⟩
  · rcases opened_step known found' opened' with ⟨keeps', _⟩ | ⟨old', before', had'⟩
    · exact Option.some.inj (keeps.symm.trans keeps')
    · exact absurd (numbered before' had') (Nat.not_lt.mpr new)
  · rcases opened_step known found' opened' with ⟨_, new⟩ | ⟨old', before', had'⟩
    · exact absurd (numbered before had) (Nat.not_lt.mpr new)
    · exact distinct name name' old old' m before before' had had'

/-- No run gives a second name to a cursor or a change stream. -/
theorem Distinct.run {a : Atlas} (distinct : s.Distinct) (mapped : Mapped a s)
    (steps : List Step) : (s.run steps).2.Distinct := by
  induction steps generalizing s a with
  | nil => exact distinct
  | cons st rest ih =>
    obtain ⟨b, _, mapped', _⟩ := mapped.step st
    exact ih (distinct.step mapped st) mapped'

/-- A session begins without cursors and change streams. -/
theorem distinct_start {remote : Remote} {name : String} {setup : Setup}
    (started : Session.start remote name setup = .ok s) : s.Distinct := by
  obtain ⟨c, _, rfl⟩ := exists_client_of_start started
  intro first second h h' m found _ opened _
  have one : [(name, Handle.client c)].lookup first = some h := found
  rw [List.lookup_cons] at one
  split at one <;> cases one
  cases opened

/-! ## Isolation -/

/-- Handles are isolated from each other.  However many cursors and change streams have been opened
in a session, and in whatever order they are used: the steps on one of them have the reports that
they have if no other handle is used, with the same results, requests and times, and leave it in the
same state.  No two names stand for one cursor or one change stream, so its number tells it from all
others; its close signal has its number.  Where a call opens yet another handle, the number that
this one gets is not compared. -/
theorem handles_isolated {remote : Remote} {name : String} {setup : Setup}
    (started : Session.start remote name setup = .ok s) (separates : remote.Separates)
    (opening steps : List Step) {number : String → Nat}
    (assigned : Assigned number (s.run opening).2 steps) :
    let opened := (s.run opening).2
    opened.Distinct ∧ ∀ n,
      let alone := stepsOf number n steps
      (reportsOf number n opened steps).map Report.unnumbered
          = (opened.run alone).1.map Report.unnumbered
        ∧ ((∀ st ∈ alone, ¬ st.command.OpensHandles) →
          reportsOf number n opened steps = (opened.run alone).1)
        ∧ ∀ name, number name = n →
          (opened.run steps).2.handle? name = (opened.run alone).2.handle? name := by
  intro opened
  obtain ⟨a, mapped, _⟩ := exists_mapped_start started
  refine ⟨(distinct_start started).run mapped opening, fun n => ?_⟩
  have before : s.world.remote.Separates := by
    obtain ⟨c, _, rfl⟩ := exists_client_of_start started
    exact separates
  obtain ⟨reports, all, along⟩ :=
    (alongside_self number n opened).run assigned (separates_run before opening)
  exact ⟨reports, all, along.handles⟩

/-- A remote side with a queue for each handle that has a number, and one for each operation that
is asked for without a number. -/
def queuedByHandle (script : List (String × Answer)) : Remote where
  queueOf
    | none, operation => operation
    | some n, _ => String.ofList (List.replicate n 'n')
  script := script

/-- Handles with different numbers have different queues. -/
theorem separates_queuedByHandle (script : List (String × Answer)) :
    (queuedByHandle script).Separates := by
  intro a b _ _ same
  have lengths := congrArg List.length (String.ofList_injective same)
  rwa [List.length_replicate, List.length_replicate] at lengths

/-- Two cursors over lists of databases: one is asked for a batch and closed, and the other one is
asked for a batch in between. -/
theorem two_cursors_isolated :
    let answer (token : String) : Answer := ⟨some (.body (.object [("kind", .string "cursor"),
      ("payload", .object [("batch", .array []), ("cursor_id", .string token)])])), 0⟩
    let remote := queuedByHandle
      [("list_databases", answer "s"), ("list_databases", answer "t"), ("nn", answer "u")]
    let opening : List Step := [⟨"client", .listDatabases none, some "a", none, none⟩,
      ⟨"client", .listDatabases none, some "b", none, none⟩]
    let advance : Step := ⟨"b", .advance, none, none, none⟩
    let steps : List Step :=
      [⟨"a", .advance, none, none, none⟩, advance, ⟨"a", .close, none, none, none⟩]
    let number (name : String) : Nat := if name = "a" then 1 else 2
    ∃ s, Session.start remote "client" ⟨"http://h/", [], some .standard⟩ = .ok s
      ∧ remote.Separates ∧ Assigned number (s.run opening).2 steps
      ∧ ((s.run opening).2.handle? "b").bind Handle.number? = some 2
      ∧ reportsOf number 2 (s.run opening).2 steps = ((s.run opening).2.run [advance]).1
      ∧ ((s.run opening).2.run steps).2.handle? "b"
        = ((s.run opening).2.run [advance]).2.handle? "b" := by
  intro answer remote opening advance steps number
  let setup : Setup := ⟨"http://h/", [], some .standard⟩
  have numbers : (Session.start remote "client" setup).toOption.map (fun s =>
      (((s.run opening).2.handle? "a").bind Handle.number?,
        ((s.run opening).2.handle? "b").bind Handle.number?)) = some (some 1, some 2) := by
    decide +kernel
  rcases started : Session.start remote "client" setup with e | s
  · rw [started] at numbers
    cases numbers
  rw [started] at numbers
  obtain ⟨first, second⟩ := Prod.mk.inj (Option.some.inj numbers)
  have held {name : String} {n : Nat} {h : Handle}
      (numbered : ((s.run opening).2.handle? name).bind Handle.number? = some n)
      (known : (s.run opening).2.handle? name = some h) : h.number? = some n := by
    rwa [known] at numbered
  have nothing : ∀ st ∈ steps, st.keep = none := by
    simp [steps, advance]
  have assigned : Assigned number (s.run opening).2 steps := by
    refine ⟨fun st mem h known => ?_, fun st mem name keeps => ?_,
      fun st mem _ => nothing st mem⟩
    · simp only [steps, List.mem_cons, List.not_mem_nil, or_false] at mem
      rcases mem with rfl | rfl | rfl
      · exact held first known
      · exact held second known
      · exact held first known
    · cases (nothing st mem).symm.trans keeps
  have separates : remote.Separates := separates_queuedByHandle _
  obtain ⟨_, isolated⟩ := handles_isolated started separates opening steps assigned
  obtain ⟨_, reports, handles⟩ := isolated 2
  refine ⟨s, rfl, separates, assigned, second, reports ?_, handles "b" rfl⟩
  intro st mem
  cases List.mem_singleton.mp mem
  exact id

end Session

end RemoteDriver
