import RemoteDriver.Proofs.Identity.Services
import RemoteDriver.Proofs.Lookup

/-!
# Which databases are the same

A client makes one handle for each name of a database, however it is asked for it and through
whichever of its clones.  The world keeps the catalogue of them: it only grows, each name of each
client stands in it once, and no two entries have one number (`Catalogued`).  Every handle of a
database that is obtained in a session is in the catalogue under its own name (`Handle.Filed`), and
so two of them are the same if and only if they have one client and one name.

Handles of collections hold the handle of their database, so the same is known of them; the text of
a full name does not matter.
-/

namespace RemoteDriver

open World (Still Retains Files)

/-! ## The catalogue -/

namespace World

/-- The keys of the databases handed out so far. -/
def filed (w : World) : List (Nat × String) := w.databases.map (·.1)

/-- The catalogue of databases is in order. -/
structure Catalogued (w : World) : Prop where
  /-- No client has two databases of one name. -/
  keys : w.filed.Nodup
  /-- No two databases have one number. -/
  serials : (w.databases.map (·.2)).Nodup
  /-- Their numbers have been given away. -/
  serial_lt : ∀ entry ∈ w.databases, entry.2 < w.next

variable {w w' : World} {key : Nat × String} {serial : Nat}

/-- Two entries with one number are the same. -/
theorem Catalogued.key_eq (catalogued : w.Catalogued) {key' : Nat × String}
    (found : w.databases.lookup key = some serial)
    (found' : w.databases.lookup key' = some serial) : key = key' := by
  have same := List.inj_on_of_nodup_map catalogued.serials (mem_of_lookup found)
    (mem_of_lookup found') rfl
  exact congrArg Prod.fst same

/-- A world without databases has its catalogue in order. -/
theorem catalogued_start (remote : Remote) : (World.start remote).Catalogued := by
  constructor <;> simp [filed, World.start]

/-- Numbers that are given away meanwhile do not matter. -/
theorem Catalogued.retains (catalogued : w.Catalogued) (retains : Retains w w') :
    w'.Catalogued := by
  constructor
  · unfold filed
    rw [retains.databases]
    exact catalogued.keys
  · rw [retains.databases]
    exact catalogued.serials
  · intro entry listed
    rw [retains.databases] at listed
    exact Nat.lt_of_lt_of_le (catalogued.serial_lt entry listed) retains.next_le

/-- A database that is asked for leaves the catalogue in order. -/
theorem Catalogued.files (catalogued : w.Catalogued) (files : w.Files key serial w') :
    w'.Catalogued := by
  cases files with
  | known found same =>
    rw [same]
    exact catalogued
  | entered missing number same =>
    rw [same, number]
    constructor
    · unfold filed
      rw [List.map_append, List.nodup_append]
      refine ⟨catalogued.keys, List.nodup_singleton _, fun entry listed other single => ?_⟩
      cases List.mem_singleton.mp single
      rintro rfl
      have found := isSome_lookup_iff.mpr listed
      rw [missing] at found
      cases found
    · rw [List.map_append, List.nodup_append]
      refine ⟨catalogued.serials, List.nodup_singleton _, fun number listed other single => ?_⟩
      cases List.mem_singleton.mp single
      obtain ⟨entry, member, same⟩ := List.mem_map.mp listed
      rw [← same]
      exact Nat.ne_of_lt (catalogued.serial_lt entry member)
    · intro entry listed
      rcases List.mem_append.mp listed with listed | listed
      · exact Nat.lt_succ_of_lt (catalogued.serial_lt entry listed)
      · cases List.mem_singleton.mp listed
        exact Nat.lt_succ_self _

/-- The catalogue only grows. -/
theorem Files.grows (files : w.Files key serial w') : w.databases <+: w'.databases := by
  cases files with
  | known found same => exact same ▸ List.prefix_rfl
  | entered missing number same =>
    rw [same]
    exact List.prefix_append _ _

/-- It grows by nothing but what is asked for. -/
theorem Files.mem_filed (files : w.Files key serial w') {key' : Nat × String} :
    key' ∈ w'.filed ↔ key' ∈ w.filed ∨ key' = key := by
  cases files with
  | known found same =>
    rw [same]
    refine ⟨.inl, ?_⟩
    rintro (listed | rfl)
    · exact listed
    · exact List.mem_map.mpr ⟨_, mem_of_lookup found, rfl⟩
  | entered missing number same =>
    rw [same]
    unfold filed
    rw [List.map_append, List.mem_append, List.map_singleton, List.mem_singleton]

/-- Nothing goes over the wire. -/
theorem Files.still (files : w.Files key serial w') : Still w w' := by
  cases files with
  | known found same =>
    rw [same]
    exact .refl w
  | entered missing number same =>
    rw [same]
    exact ⟨rfl, rfl, rfl⟩

end World

open World (Catalogued)

/-! ## Handles in the catalogue -/

namespace Database

/-- The key of a database in the world. -/
def key (d : Database) : Nat × String := d.owner.databaseKey d.name

/-- A database is in the catalogue, with its own number. -/
def Filed (w : World) (d : Database) : Prop := w.databases.lookup d.key = some d.serial

/-- Two databases in one catalogue are the same if and only if they have one client and one
name. -/
theorem isSame_iff {w : World} (catalogued : w.Catalogued) {d d' : Database} (filed : d.Filed w)
    (filed' : d'.Filed w) : d.isSame d' = true
      ↔ d.owner.connection.client = d'.owner.connection.client ∧ d.name = d'.name := by
  unfold isSame
  rw [beq_iff_eq]
  constructor
  · intro same
    unfold Filed at filed filed'
    rw [same] at filed
    have key := catalogued.key_eq filed filed'
    exact ⟨congrArg Prod.fst key, congrArg Prod.snd key⟩
  · rintro ⟨client, name⟩
    have key : d.key = d'.key := Prod.ext client name
    unfold Filed at filed
    rw [key, filed'] at filed
    exact (Option.some.inj filed).symm

end Database

/-- Two collections in one catalogue are the same if and only if they have one client, one name of a
database and one name. -/
theorem Collection.isSame_iff {w : World} (catalogued : w.Catalogued) {c c' : Collection}
    (filed : c.database.Filed w) (filed' : c'.database.Filed w) : c.isSame c' = true
      ↔ c.database.owner.connection.client = c'.database.owner.connection.client
        ∧ c.database.name = c'.database.name ∧ c.name = c'.name := by
  unfold isSame
  rw [Bool.and_eq_true, Database.isSame_iff catalogued filed filed', beq_iff_eq, and_assoc]

namespace Handle

/-- A database that a handle stands for or leads to is in the catalogue. -/
def Filed (w : World) : Handle → Prop
  | database d => d.Filed w
  | collection c => c.database.Filed w
  | _ => True

variable {h h' : Handle} {command : Command} {w w' : World}

/-- What is in the catalogue stays there while it grows. -/
theorem Filed.grows (filed : h.Filed w) (grows : w.databases <+: w'.databases) : h.Filed w' := by
  cases h with
  | database d => exact lookup_of_prefix grows filed
  | collection c => exact lookup_of_prefix grows filed
  | client | cursor | changeStream | closeSignal => trivial

/-- What a handle has become stands for the same database. -/
theorem Filed.becomes (filed : h.Filed w) (becomes : h.Becomes h') : h'.Filed w := by
  cases h with
  | client | database | collection | closeSignal =>
    cases becomes
    exact filed
  | cursor | changeStream => cases h' <;> trivial

/-- What is brought by a handle in the catalogue is in the catalogue. -/
theorem Filed.issues (filed : h.Filed w) (grows : w.databases <+: w'.databases)
    (issues : h.Issues command w w' h') : h'.Filed w' := by
  cases issues with
  | again => exact filed.grows grows
  | parent c maker =>
    subst maker
    exact lookup_of_prefix grows filed
  | collection d name maker =>
    subst maker
    exact lookup_of_prefix grows filed
  | database c name serial maker entered => exact entered
  | owner | signal | client | cursor | stream => trivial

end Handle

/-! ## Steps -/

/-- Only a command that asks a client for a database stands for one. -/
theorem Client.Resolves.asks {c : Client} {command : Command} {wanted : String}
    (resolves : c.Resolves command wanted) : command.AsksForDatabase := by
  obtain ⟨_, resolves⟩ := resolves
  cases command <;> first | trivial | exact resolves.elim | skip
  rcases resolves with ⟨_, ⟨named, _⟩ | ⟨named, _⟩⟩
  · exact .inl named
  · exact .inr named

namespace Session

variable {s : Session} {st : Step} {h : Handle} {c : Client}

/-- A step asks a client for the database with this key. -/
def AsksFor (key : Nat × String) (s : Session) (st : Step) : Prop :=
  ∃ c, s.handle? st.target = some (.client c) ∧ c.connection.client = key.1
    ∧ c.Resolves st.command key.2

/-- What comes of a step that asks a client for a database. -/
structure Asked (s : Session) (st : Step) (c : Client) : Prop where
  /-- Nothing is posted. -/
  silent : (s.step st).1.posted = []
  /-- The database that the command stands for is handed out: it has this name, and it is in the
  catalogue. -/
  found : ∀ wanted, c.Resolves st.command wanted → ∃ serial,
    (s.step st).1.verdict = .result (st.command.told ⟨c, wanted, serial⟩)
    ∧ (s.step st).2.world.databases.lookup (c.databaseKey wanted) = some serial
  /-- A command that stands for none is misuse, and enters nothing. -/
  refused : (∀ wanted, ¬ c.Resolves st.command wanted) →
    (∃ err, (s.step st).1.verdict = .failed err ∧ err.IsMisuse)
    ∧ (s.step st).2.world.databases = s.world.databases

/-- How a client serves a command that asks for a database. -/
theorem serve_sought (asks : st.command.AsksForDatabase) : ∃ out,
    c.Sought st.command s.world out
    ∧ s.serve st (.client c) = (.ofExcept out.1, out.2.1, out.2.2) := by
  obtain ⟨service, served, sought⟩ := c.service_sought asks
  refine ⟨_, sought (limits st (.client c) s.world) s.world, ?_⟩
  rw [serve_of_service served, conclude_client]

/-- A client that is asked for a database finds it, enters it, or refuses. -/
theorem asked_of_client (known : s.handle? st.target = some (.client c))
    (asks : st.command.AsksForDatabase) : Asked s st c := by
  obtain ⟨out, sought, served⟩ := serve_sought (s := s) (c := c) asks
  have verdict : (s.step st).1.verdict = .ofExcept out.1 := by
    rw [step_of_handle known, served]
  have world : (s.step st).2.world.databases = out.2.2.databases := by
    rw [step_of_handle known, served]
    rfl
  have posted (still : Still s.world out.2.2) : (s.step st).1.posted = [] := by
    apply posted_of_serve known
    rw [served, List.append_nil]
    exact still.posted
  cases sought with
  | found wanted serial w' only files =>
    refine ⟨posted files.still, ?_, ?_⟩
    · intro name resolves
      cases (only name).mp resolves
      exact ⟨serial, verdict, world ▸ files.lookup⟩
    · intro none
      exact absurd ((only wanted).mpr rfl) (none wanted)
  | refused err misuse none =>
    refine ⟨posted (.refl _), ?_, ?_⟩
    · intro wanted resolves
      exact absurd resolves (none wanted)
    · intro _
      exact ⟨⟨err, verdict, misuse⟩, world⟩

/-- What a step does to the catalogue. -/
structure Catalogues (s : Session) (st : Step) (w' : World) : Prop where
  /-- It only grows. -/
  grows : s.world.databases <+: w'.databases
  /-- It stays in order. -/
  keeps : s.world.Catalogued → w'.Catalogued
  /-- It grows by what is asked for. -/
  mem_filed : ∀ key, key ∈ w'.filed ↔ key ∈ s.world.filed ∨ s.AsksFor key st

/-- A step that asks for no database leaves the catalogue as it is. -/
theorem catalogues_of_retains {w' : World} (retains : Retains s.world w')
    (none : ∀ key, ¬ s.AsksFor key st) : Catalogues s st w' where
  grows := retains.databases ▸ List.prefix_rfl
  keeps catalogued := catalogued.retains retains
  mem_filed key := by
    unfold World.filed
    rw [retains.databases]
    exact ⟨.inl, fun h => h.resolve_right (none key)⟩

/-- A step enters a database at most if it asks for it. -/
theorem step_catalogues (s : Session) (st : Step) : Catalogues s st (s.step st).2.world := by
  rcases known : s.handle? st.target with _ | h
  · rw [step_of_none known]
    refine catalogues_of_retains (.refl _) ?_
    rintro key ⟨c, known', _⟩
    cases known.symm.trans known'
  have after : Retains (s.serve st h).2.2 (s.step st).2.world := by
    rw [step_of_handle known]
    exact .of_eq rfl rfl
  by_cases asks : h.AsksForDatabase st.command
  · cases h with
    | client c =>
      obtain ⟨out, sought, served⟩ := serve_sought (s := s) (c := c) asks
      rw [served] at after
      have mine {key : Nat × String} (asked : s.AsksFor key st) :
          c.connection.client = key.1 ∧ c.Resolves st.command key.2 := by
        obtain ⟨c', known', client, resolves⟩ := asked
        cases known.symm.trans known'
        exact ⟨client, resolves⟩
      cases sought with
      | found wanted serial w' only files =>
        refine ⟨?_, ?_, ?_⟩
        · rw [after.databases]
          exact files.grows
        · intro catalogued
          exact (catalogued.files files).retains after
        · intro key
          unfold World.filed
          rw [after.databases]
          refine files.mem_filed.trans (or_congr_right ⟨?_, ?_⟩)
          · rintro rfl
            exact ⟨c, known, rfl, (only wanted).mpr rfl⟩
          · intro asked
            obtain ⟨client, resolves⟩ := mine asked
            exact Prod.ext client.symm ((only key.2).mp resolves)
      | refused err misuse none =>
        exact catalogues_of_retains after fun key asked => none key.2 (mine asked).2
    | database | collection | cursor | changeStream | closeSignal => exact asks.elim
  · refine catalogues_of_retains (((s.serve_provides st h).retains asks).trans after) ?_
    rintro key ⟨c, known', _, resolves⟩
    cases known.symm.trans known'
    exact asks resolves.asks

/-! ## Runs -/

/-- The catalogue is in order, and the handles of a session are in it. -/
structure Orderly (s : Session) : Prop where
  /-- The catalogue is in order. -/
  catalogued : s.world.Catalogued
  /-- Every handle is in it. -/
  filed : ∀ name h, s.handle? name = some h → h.Filed s.world

/-- A session begins with its catalogue in order. -/
theorem orderly_start {remote : Remote} {name : String} {setup : Setup}
    (started : Session.start remote name setup = .ok s) : Orderly s := by
  obtain ⟨c, _, rfl⟩ := exists_client_of_start started
  constructor
  · exact (World.catalogued_start remote).retains ⟨rfl, Nat.le_succ _⟩
  · intro other h known
    have one : [(name, Handle.client c)].lookup other = some h := known
    rw [List.lookup_cons] at one
    split at one <;> cases one
    trivial

/-- A handle that a step brings is in the catalogue. -/
theorem Orderly.brought (orderly : Orderly s)
    (brought : (s.step st).1.verdict.handle? = some h) : h.Filed (s.step st).2.world := by
  have grows := (s.step_catalogues st).grows
  rcases known : s.handle? st.target with _ | maker
  · rw [step_of_none known] at brought
    cases brought
  · have filed := orderly.filed st.target maker known
    rw [step_of_handle known] at brought grows ⊢
    have filed : h.Filed (s.serve st maker).2.2 :=
      filed.issues grows ((s.serve_provides st maker).delivers h brought)
    exact filed.grows List.prefix_rfl

/-- A step leaves the catalogue in order and the handles in it. -/
theorem Orderly.step (orderly : Orderly s) (st : Step) : Orderly (s.step st).2 := by
  have catalogues := s.step_catalogues st
  refine ⟨catalogues.keeps orderly.catalogued, fun name h found => ?_⟩
  rcases known : s.handle? st.target with _ | maker
  · rw [step_of_none known] at found ⊢
    exact orderly.filed name h found
  · rcases handle?_step known found with became | brought | old
    · have filed := (orderly.filed st.target maker known).grows catalogues.grows
      exact filed.becomes ((s.serve_provides st maker).becomes h became)
    · refine orderly.brought ?_
      rw [step_of_handle known]
      exact brought
    · exact (orderly.filed name h old).grows catalogues.grows

/-- A run leaves the catalogue in order and the handles in it. -/
theorem Orderly.run (orderly : Orderly s) (steps : List Step) : Orderly (s.run steps).2 := by
  induction steps generalizing s with
  | nil => exact orderly
  | cons st rest ih => exact ih (orderly.step st)

/-- The catalogue only grows. -/
theorem grows_run (s : Session) (steps : List Step) :
    s.world.databases <+: (s.run steps).2.world.databases := by
  induction steps generalizing s with
  | nil => exact List.prefix_rfl
  | cons st rest ih => exact (s.step_catalogues st).grows.trans (ih (s.step st).2)

/-- What is in the catalogue after a run was in it before, or has been asked for. -/
theorem mem_filed_run (s : Session) (steps : List Step) (key : Nat × String) :
    key ∈ (s.run steps).2.world.filed ↔ key ∈ s.world.filed ∨ Sometime (AsksFor key) s steps := by
  induction steps generalizing s with
  | nil => exact ⟨.inl, fun h => h.resolve_right (not_sometime_nil _ s)⟩
  | cons st rest ih =>
    rw [sometime_cons, ← or_assoc, ← (s.step_catalogues st).mem_filed key]
    exact ih (s.step st).2

/-- At some step of a run a handle is brought. -/
def Obtains (h : Handle) : Session → List Step → Prop :=
  Sometime fun s st => (s.step st).1.verdict.handle? = some h

/-- A handle that has been brought in a run is in the catalogue after it. -/
theorem Orderly.obtained (orderly : Orderly s) {steps : List Step} (obtains : Obtains h s steps) :
    h.Filed (s.run steps).2.world := by
  obtain ⟨before, st, after, rfl, brought⟩ := obtains
  have filed := (orderly.run before).brought brought
  rw [run_append]
  exact filed.grows (((s.run before).2.step st).2.grows_run after)

/-- Which databases and collections are the same.  In every run of a session the catalogue holds one
entry for each database that a client has been asked for, by its client and its name, and none is
ever replaced or taken out.  Each step that asks for a database posts nothing, and hands out the one
that the command stands for, or is misuse.  Of all databases that have been obtained, two are the
same if and only if they have one client and one name; and of all collections two are if and only if
they have one client, one name of a database and one name. -/
theorem databases_identified {remote : Remote} {name : String} {setup : Setup}
    (started : Session.start remote name setup = .ok s) (steps : List Step) :
    let later := (s.run steps).2
    later.world.filed.Nodup
      ∧ (∀ key, key ∈ later.world.filed ↔ Sometime (AsksFor key) s steps)
      ∧ (∀ before after, steps = before ++ after →
          (s.run before).2.world.databases <+: later.world.databases)
      ∧ Always (fun s st => ∀ c, s.handle? st.target = some (.client c) →
          st.command.AsksForDatabase → Asked s st c) s steps
      ∧ (∀ d d', Obtains (.database d) s steps → Obtains (.database d') s steps →
          (d.isSame d' = true
            ↔ d.owner.connection.client = d'.owner.connection.client ∧ d.name = d'.name))
      ∧ (∀ c c', Obtains (.collection c) s steps → Obtains (.collection c') s steps →
          (c.isSame c' = true
            ↔ c.database.owner.connection.client = c'.database.owner.connection.client
              ∧ c.database.name = c'.database.name ∧ c.name = c'.name)) := by
  intro later
  have orderly := orderly_start started
  have catalogued := (orderly.run steps).catalogued
  refine ⟨catalogued.keys, ?_, ?_, ?_, ?_, ?_⟩
  · intro key
    obtain ⟨c, _, same⟩ := exists_client_of_start started
    -- a session begins with no database, so all that are filed have been asked for
    have empty : s.world.filed = [] := by
      rw [same]
      rfl
    rw [mem_filed_run, empty]
    exact ⟨fun h => h.resolve_left List.not_mem_nil, .inr⟩
  · rintro before after rfl
    show _ <+: (s.run (before ++ after)).2.world.databases
    rw [run_append]
    exact (s.run before).2.grows_run after
  · rintro before st after _ c known asks
    exact asked_of_client known asks
  · intro d d' obtained obtained'
    exact Database.isSame_iff catalogued (orderly.obtained obtained) (orderly.obtained obtained')
  · intro c c' obtained obtained'
    exact Collection.isSame_iff catalogued (orderly.obtained obtained) (orderly.obtained obtained')

/-- A session with one client, which is asked for one database in two ways. -/
theorem single_database_identified :
    ∃ s, Session.start (.ofScript []) "client" ⟨"http://h/", [], some .standard⟩ = .ok s
      ∧ (s.run [⟨"client", .get "a", none, none, none⟩,
          ⟨"client", .member "a", none, none, none⟩]).2.world.filed.Nodup
      ∧ (0, "a") ∈ (s.run [⟨"client", .get "a", none, none, none⟩,
          ⟨"client", .member "a", none, none, none⟩]).2.world.filed := by
  have starts : (Session.start (.ofScript []) "client" ⟨"http://h/", [], some .standard⟩).isOk
      = true := by decide +kernel
  rcases started : Session.start (.ofScript []) "client" ⟨"http://h/", [], some .standard⟩
    with e | s
  · rw [started] at starts
    cases starts
  · obtain ⟨c, number, same⟩ := exists_client_of_start started
    obtain ⟨nodup, filed, _⟩ := databases_identified started
      [⟨"client", .get "a", none, none, none⟩, ⟨"client", .member "a", none, none, none⟩]
    have asks : s.AsksFor (0, "a") ⟨"client", .get "a", none, none, none⟩ := by
      refine ⟨c, ?_, number, by decide, rfl⟩
      rw [same]
      rfl
    exact ⟨s, rfl, nodup, (filed (0, "a")).mpr (sometime_cons.mpr (.inl asks))⟩

end Session

end RemoteDriver
