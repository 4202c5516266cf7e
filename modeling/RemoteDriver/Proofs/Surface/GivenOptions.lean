import Mathlib.Data.List.Forall2
import RemoteDriver.Proofs.Bson.RoundTrip
import RemoteDriver.Proofs.Surface.Counts
import RemoteDriver.Proofs.Surface.Helpers
import RemoteDriver.Proofs.Wire.Doubles

/-!
# Options on the wire

The options of a search or an update are set one after the other, in any order and as often as one
likes.  What is sent is the last setting of each name, the names in an order of their own
(`FindOptions.held_ofList`, `UpdateOptions.held_ofList`), and it is read back as what was set
(`Codec.Carries`).

The main statement, `options_reach_the_wire`, says so of whole requests: beside the documents that
stand by position there is one entry for each name that was set, and no other.  Only a search that
is to skip more documents than 64 bits with a sign can count is refused.
-/

namespace RemoteDriver

open Bson (Document Value)
open RemoteDriver.Action

/-! ## The last setting of each name -/

section lasts

variable {α : Type} {nameOf : α → String}

/-- The last setting of a name. -/
def lastOf (nameOf : α → String) (name : String) (settings : List α) : Option α :=
  (settings.filter fun setting => nameOf setting = name).getLast?

/-- The last setting of each name, in the order of the names. -/
def lastOfEach (nameOf : α → String) (names : List String) (settings : List α) : List α :=
  names.filterMap fun name => lastOf nameOf name settings

/-- One more setting is the last of its name and leaves the other names alone. -/
theorem lastOf_snoc (name : String) (settings : List α) (setting : α) :
    lastOf nameOf name (settings ++ [setting])
      = if nameOf setting = name then some setting else lastOf nameOf name settings := by
  unfold lastOf
  rw [List.filter_append]
  by_cases same : nameOf setting = name
  · rw [if_pos same, List.filter_singleton, decide_eq_true same]
    exact List.getLast?_concat
  · rw [if_neg same, List.filter_singleton, decide_eq_false same]
    exact congrArg List.getLast? (List.append_nil _)

/-- Options that are set one after the other hold the last setting of each name, if a setting takes
the place of an earlier one of its name and of nothing else. -/
theorem get?_foldl {σ : Type} {names : List String} {get? : σ → String → Option α}
    {set : σ → α → σ} {start : σ} (empty : ∀ name ∈ names, get? start name = none)
    (sets : ∀ o setting, ∀ name ∈ names, get? (set o setting) name
      = if nameOf setting = name then some setting else get? o name) (settings : List α) :
    names.filterMap (get? (settings.foldl set start)) = lastOfEach nameOf names settings := by
  refine List.filterMap_congr fun name known => ?_
  induction settings using List.reverseRecOn with
  | nil => exact empty name known
  | append_singleton settings setting ih =>
    rw [List.foldl_append, List.foldl_cons, List.foldl_nil, sets _ _ name known, lastOf_snoc, ih]

end lasts

/-! ## Options of searches -/

namespace FindOption

/-- The name under which a setting is sent. -/
def name : FindOption → String
  | limit _ => "limit"
  | skip _ => "skip"
  | sort _ => "sort"
  | projection _ => "projection"
  | batchSize _ => "batch_size"

/-- The value that is sent. -/
def value : FindOption → Value
  | limit n => .int64 n
  | skip n => .int64 (Int64.ofInt n)
  | sort keys => .document keys
  | projection fields => .document fields
  | batchSize n => .int64 (Int64.ofInt n.toNat)

/-- The documents that a setting holds. -/
def documents : FindOption → List Document
  | sort keys => [keys]
  | projection fields => [fields]
  | _ => []

/-- The names in the order in which they are sent. -/
def names : List String := ["projection", "skip", "limit", "sort", "batch_size"]

/-- The settings that count, in the order in which they are sent. -/
def lasts (settings : List FindOption) : List FindOption := lastOfEach name names settings

end FindOption

namespace FindOptions

/-- The setting of a name, if there is one. -/
def get? (o : FindOptions) (name : String) : Option FindOption :=
  if name = "projection" then o.projection.map .projection
  else if name = "skip" then o.skip.map .skip
  else if name = "limit" then o.limit.map .limit
  else if name = "sort" then o.sort.map .sort
  else if name = "batch_size" then o.batchSize.map .batchSize
  else .none

/-- All settings that are held, in the order in which they are sent. -/
def held (o : FindOptions) : List FindOption := FindOption.names.filterMap o.get?

/-- The options of a search hold the last setting of each name. -/
theorem held_ofList (settings : List FindOption) :
    (ofList settings).held = FindOption.lasts settings := by
  refine get?_foldl (fun name known => ?_) (fun o setting name known => ?_) settings <;>
    simp only [FindOption.names, List.mem_cons, List.not_mem_nil, or_false] at known
  · rcases known with rfl | rfl | rfl | rfl | rfl <;> rfl
  · rcases known with rfl | rfl | rfl | rfl | rfl <;> cases setting <;> rfl

/-- What is held is sent entry by entry. -/
theorem map_held (o : FindOptions) : o.held.map (fun setting => (setting.name, setting.value))
    = argument "projection" (o.projection.map .document)
      ++ argument "skip" (o.skip.map fun n => .int64 (Int64.ofInt n))
      ++ argument "limit" (o.limit.map .int64)
      ++ argument "sort" (o.sort.map .document)
      ++ argument "batch_size" (o.batchSize.map fun n => .int64 (Int64.ofInt n.toNat)) := by
  obtain ⟨_ | limit, _ | skip, _ | sort, _ | projection, _ | size⟩ := o <;> rfl

/-- A number without a sign fits into 64 bits with one below half of their range. -/
theorem fitsInt64_natCast (n : Nat) : Number.fitsInt64 n = decide (n < 2 ^ 63) := by
  unfold Number.fitsInt64 Number.minInt64 Number.maxInt64
  rw [← Bool.decide_and]
  exact decide_eq_decide.mpr (by omega)

/-- The settings that are held are sent if 64 bits with a sign count what is to be skipped. -/
theorem toKwargs_of_lt {o : FindOptions} (fits : ∀ n, o.skip = some n → n < 2 ^ 63) :
    o.toKwargs = .ok (o.held.map fun setting => (setting.name, setting.value)) := by
  unfold toKwargs
  rw [map_held]
  rcases skipped : o.skip with _ | n
  · exact if_neg Bool.false_ne_true
  · dsimp only
    rw [fitsInt64_natCast, decide_eq_true (fits n skipped)]
    exact if_neg Bool.false_ne_true

/-- Otherwise they are refused. -/
theorem toKwargs_of_ge {o : FindOptions} {n : Nat} (skipped : o.skip = some n)
    (large : 2 ^ 63 ≤ n) : o.toKwargs = .error (.usage "find"
      ("skip " ++ toString n ++ " exceeds the largest signed 64-bit value")) := by
  unfold toKwargs
  rw [skipped]
  dsimp only
  rw [fitsInt64_natCast, decide_eq_false (Nat.not_lt.mpr large)]
  exact if_pos rfl

/-- How many documents are to be skipped is held as it is. -/
theorem skip_mem_held {o : FindOptions} {n : Nat} :
    FindOption.skip n ∈ o.held ↔ o.skip = some n := by
  constructor
  · intro mem
    obtain ⟨name, known, got⟩ := List.mem_filterMap.mp mem
    simp only [FindOption.names, List.mem_cons, List.not_mem_nil, or_false] at known
    rcases known with rfl | rfl | rfl | rfl | rfl <;>
      obtain ⟨m, skipped, same⟩ := Option.map_eq_some_iff.mp got <;> cases same
    exact skipped
  · intro skipped
    refine List.mem_filterMap.mpr ⟨"skip", by decide, ?_⟩
    show o.skip.map FindOption.skip = _
    rw [skipped]
    rfl

end FindOptions

/-! ## Options of updates -/

namespace UpdateOption

/-- The name under which a setting is sent. -/
def name : UpdateOption → String
  | upsert _ => "upsert"
  | arrayFilters _ => "array_filters"

/-- The value that is sent. -/
def value : UpdateOption → Value
  | upsert b => .boolean b
  | arrayFilters filters => .documents filters

/-- The documents that a setting holds. -/
def documents : UpdateOption → List Document
  | upsert _ => []
  | arrayFilters filters => filters

/-- The names in the order in which they are sent. -/
def names : List String := ["upsert", "array_filters"]

/-- The settings that count, in the order in which they are sent. -/
def lasts (settings : List UpdateOption) : List UpdateOption := lastOfEach name names settings

end UpdateOption

namespace UpdateOptions

/-- The setting of a name, if there is one. -/
def get? (o : UpdateOptions) (name : String) : Option UpdateOption :=
  if name = "upsert" then o.upsert.map .upsert
  else if name = "array_filters" then o.arrayFilters.map .arrayFilters
  else .none

/-- All settings that are held, in the order in which they are sent. -/
def held (o : UpdateOptions) : List UpdateOption := UpdateOption.names.filterMap o.get?

/-- The options of an update hold the last setting of each name. -/
theorem held_ofList (settings : List UpdateOption) :
    (ofList settings).held = UpdateOption.lasts settings := by
  refine get?_foldl (fun name known => ?_) (fun o setting name known => ?_) settings <;>
    simp only [UpdateOption.names, List.mem_cons, List.not_mem_nil, or_false] at known
  · rcases known with rfl | rfl <;> rfl
  · rcases known with rfl | rfl <;> cases setting <;> rfl

/-- The settings that are held are sent. -/
theorem toKwargs_eq (o : UpdateOptions) :
    o.toKwargs = o.held.map fun setting => (setting.name, setting.value) := by
  obtain ⟨_ | upsert, _ | filters⟩ := o <;> rfl

end UpdateOptions

/-! ## What a codec carries -/

namespace Codec

/-- A JSON value is read as this whole number, in either of the integer types. -/
def ReadsNumber (codec : Codec) (j : Json) (n : Int) : Prop :=
  (∃ m : Int32, codec.decode j = .ok (.int32 m) ∧ m.toInt = n)
    ∨ ∃ m : Int64, codec.decode j = .ok (.int64 m) ∧ m.toInt = n

/-- A document has a form on the wire. -/
def Writes (codec : Codec) (d : Document) : Prop := ∃ j, codec.encodeDocument d = .ok j

/-- Documents have these forms, one by one. -/
def Forms (codec : Codec) (ds : List Document) (js : List Json) : Prop :=
  List.Forall₂ (fun d j => codec.encodeDocument d = .ok j) ds js

/-- What options are made of crosses the wire. -/
structure Carries (codec : Codec) : Prop where
  /-- A whole number comes back as itself, maybe in the narrower type. -/
  number : ∀ n : Int64, ∃ j, codec.encode (.int64 n) = .ok j ∧ codec.ReadsNumber j n.toInt
  /-- So does a truth value. -/
  boolean : ∀ b, ∃ j, codec.encode (.boolean b) = .ok j ∧ codec.decode j = .ok (.boolean b)
  /-- Documents that have forms go as the array of these forms. -/
  documents : ∀ ds js, codec.Forms ds js → codec.encode (.documents ds) = .ok (.array js)

/-- Documents that have a form each have one together. -/
theorem exists_forms {codec : Codec} {ds : List Document} (writes : ∀ d ∈ ds, codec.Writes d) :
    ∃ js, codec.Forms ds js := by
  induction ds with
  | nil => exact ⟨[], .nil⟩
  | cons d ds ih =>
    rw [List.forall_mem_cons] at writes
    obtain ⟨j, written⟩ := writes.1
    obtain ⟨js, forms⟩ := ih writes.2
    exact ⟨j :: js, .cons written forms⟩

/-- The forms of documents are what they are encoded as, one by one. -/
theorem Forms.map_encode {codec : Codec} {ds : List Document} {js : List Json}
    (forms : codec.Forms ds js) : (ds.map Value.document).map codec.encode = js.map .ok := by
  induction forms with
  | nil => rfl
  | cons written _ ih =>
    rw [List.map_cons, List.map_cons, List.map_cons, ih]
    exact congrArg (· :: _) written

/-- A document that is written holds no double without a form, and is written in the relaxed
form. -/
theorem encodeDocument_relaxed {d : Document} {j : Json}
    (written : relaxed.encodeDocument d = .ok j) :
    nonFinite? (.document d) = none ∧ j = Bson.relaxed (.document d) := by
  have encoded : relaxed.encode (.document d) = .ok j := written
  rw [encode_relaxed] at encoded
  cases found : nonFinite? (.document d) with
  | none =>
    rw [found] at encoded
    exact ⟨rfl, (Except.ok.inj encoded).symm⟩
  | some number =>
    rw [found] at encoded
    cases encoded

/-- The relaxed codec carries what options are made of. -/
theorem relaxed_carries : relaxed.Carries where
  number n := by
    refine ⟨.number (.whole n.toInt), rfl, ?_⟩
    have read : relaxed.decode (.number (.whole n.toInt)) = .ok (Bson.ofNumber (.whole n.toInt)) :=
      rfl
    rw [Bson.ofNumber_int64 id, Bson.settled] at read
    split at read
    · next small => exact .inl ⟨_, read, Bson.toInt_ofInt_of_fitsInt32 small⟩
    · exact .inr ⟨n, read, rfl⟩
  boolean b := ⟨.boolean b, rfl, rfl⟩
  documents ds js forms := by
    have each : nonFiniteItem? (ds.map .document) = none
        ∧ js = Bson.relaxedItems (ds.map .document) := by
      induction forms with
      | nil => exact ⟨rfl, rfl⟩
      | cons written _ ih =>
        obtain ⟨finite, rfl⟩ := encodeDocument_relaxed written
        rw [List.map_cons, nonFiniteItem?, finite, Bson.relaxedItems]
        exact ⟨ih.1, congrArg _ ih.2⟩
    rw [encode_relaxed, Value.documents, nonFinite?, each.1, each.2]
    rfl

/-- The canonical codec carries what options are made of. -/
theorem canonical_carries : canonical.Carries where
  number n := by
    refine ⟨Bson.marked .int64 (Bson.intText n.toInt), rfl, .inr ⟨n, ?_, rfl⟩⟩
    have read : Bson.read (Bson.marked .int64 (Bson.intText n.toInt)) = .ok (.int64 n) := by
      rw [Bson.intText, Bson.read_marked, Bson.readMarked, Bson.onlyText_marked]
      dsimp only [bind, Except.bind]
      rw [Bson.int64OfText_toString]
      rfl
    unfold canonical readExtended
    dsimp only
    rw [read]
    rfl
  boolean b := ⟨.boolean b, rfl, rfl⟩
  documents ds js forms := by
    have each : js = Bson.canonicalItems (ds.map .document) := by
      induction forms with
      | nil => rfl
      | cons written _ ih =>
        cases written
        rw [ih]
        rfl
    rw [each]
    rfl

end Codec

/-! ## Settings on the wire -/

/-- An entry of a request tells a setting of a search. -/
def FindOption.Arrives (codec : Codec) : FindOption → String × Json → Prop
  | limit n, (name, j) => name = "limit" ∧ codec.ReadsNumber j n.toInt
  | skip n, (name, j) => name = "skip" ∧ codec.ReadsNumber j n
  | sort keys, (name, j) => name = "sort" ∧ codec.encodeDocument keys = .ok j
  | projection fields, (name, j) => name = "projection" ∧ codec.encodeDocument fields = .ok j
  | batchSize n, (name, j) => name = "batch_size" ∧ codec.ReadsNumber j n.toNat

/-- An entry of a request tells a setting of an update. -/
def UpdateOption.Arrives (codec : Codec) : UpdateOption → String × Json → Prop
  | upsert b, (name, j) => name = "upsert" ∧ codec.decode j = .ok (.boolean b)
  | arrayFilters filters, (name, j) =>
    name = "array_filters" ∧ ∃ js, j = .array js ∧ codec.Forms filters js

section arrives

variable {codec : Codec}

/-- A setting of a search is encoded to what tells it. -/
theorem FindOption.exists_arrives (carries : codec.Carries) {setting : FindOption}
    (fits : ∀ n, setting = .skip n → n < 2 ^ 63)
    (writes : ∀ d ∈ setting.documents, codec.Writes d) :
    ∃ j, codec.encode setting.value = .ok j ∧ setting.Arrives codec (setting.name, j) := by
  -- a number that 64 bits hold goes as one of 64 bits
  have counted (n : Nat) (small : n < 2 ^ 63) :
      ∃ j, codec.encode (.int64 (Int64.ofInt n)) = .ok j ∧ codec.ReadsNumber j n := by
    obtain ⟨j, encoded, reads⟩ := carries.number (Int64.ofInt n)
    rw [Int64.toInt_ofInt_of_le (by omega) (by omega)] at reads
    exact ⟨j, encoded, reads⟩
  cases setting with
  | limit n =>
    obtain ⟨j, encoded, reads⟩ := carries.number n
    exact ⟨j, encoded, rfl, reads⟩
  | skip n =>
    obtain ⟨j, encoded, reads⟩ := counted n (fits n rfl)
    exact ⟨j, encoded, rfl, reads⟩
  | batchSize n =>
    obtain ⟨j, encoded, reads⟩ := counted n.toNat (Nat.lt_trans n.toNat_lt (by decide))
    exact ⟨j, encoded, rfl, reads⟩
  | sort keys =>
    obtain ⟨j, written⟩ := writes keys (List.mem_singleton.mpr rfl)
    exact ⟨j, written, rfl, written⟩
  | projection fields =>
    obtain ⟨j, written⟩ := writes fields (List.mem_singleton.mpr rfl)
    exact ⟨j, written, rfl, written⟩

/-- A setting of an update is encoded to what tells it. -/
theorem UpdateOption.exists_arrives (carries : codec.Carries) {setting : UpdateOption}
    (writes : ∀ d ∈ setting.documents, codec.Writes d) :
    ∃ j, codec.encode setting.value = .ok j ∧ setting.Arrives codec (setting.name, j) := by
  cases setting with
  | upsert b =>
    obtain ⟨j, encoded, reads⟩ := carries.boolean b
    exact ⟨j, encoded, rfl, reads⟩
  | arrayFilters filters =>
    obtain ⟨js, forms⟩ := Codec.exists_forms writes
    exact ⟨.array js, carries.documents filters js forms, rfl, js, rfl, forms⟩

/-- Settings are encoded to entries, one by one, if each of them is. -/
theorem exists_entries {α : Type} {nameOf : α → String} {valueOf : α → Value}
    {Arrives : α → String × Json → Prop} {settings : List α}
    (each : ∀ setting ∈ settings, ∃ j, codec.encode (valueOf setting) = .ok j
      ∧ Arrives setting (nameOf setting, j)) :
    ∃ kwargs : List (String × Json),
      (settings.map fun setting => (nameOf setting, valueOf setting)).map
          (fun (name, v) => (name, codec.encode v))
        = kwargs.map (fun (name, j) => (name, .ok j))
      ∧ List.Forall₂ Arrives settings kwargs := by
  induction settings with
  | nil => exact ⟨[], rfl, .nil⟩
  | cons setting settings ih =>
    rw [List.forall_mem_cons] at each
    obtain ⟨j, encoded, arrives⟩ := each.1
    obtain ⟨kwargs, entries, all⟩ := ih each.2
    refine ⟨(nameOf setting, j) :: kwargs, ?_, .cons arrives all⟩
    rw [List.map_cons, List.map_cons, List.map_cons, entries]
    dsimp only
    rw [encoded]

end arrives

/-! ## Requests of collections -/

namespace Collection

/-- The codec of a collection. -/
def codec (c : Collection) : Codec := c.database.owner.connection.codec

/-- The client of a collection is open. -/
def IsOpen (c : Collection) (w : World) : Prop :=
  w.isClosed c.database.owner.connection.client = false

/-- One request is posted: it has the forms of these documents by position, and for each of these
settings the entry that tells it, and nothing else. -/
def PostsOnce {α : Type} (c : Collection) (operation : String) (documents : List Document)
    (Arrives : α → String × Json → Prop) (settings : List α) (w w' : World) : Prop :=
  ∃ args kwargs, w'.posted = w.posted
      ++ [c.database.owner.connection.request ⟨operation, args, kwargs, c.route⟩]
    ∧ c.codec.Forms documents args ∧ List.Forall₂ Arrives settings kwargs

variable {c : Collection} {limits : Limits} {w : World}

/-- What is undertaken by a call that fits posts it once, with documents by position and settings
by name. -/
theorem postsOnce_of_undertakes {α β : Type} {t : Action β} {operation : String}
    {documents : List Document} {settings : List α} {nameOf : α → String} {valueOf : α → Value}
    {Arrives : α → String × Json → Prop}
    (undertakes : Undertakes c.gateway t (some ⟨operation, documents.map .document,
      settings.map fun setting => (nameOf setting, valueOf setting)⟩))
    (fits : Shape.collection.Fits ⟨operation, documents.map .document,
      settings.map fun setting => (nameOf setting, valueOf setting)⟩)
    (isOpen : c.IsOpen w) (writes : ∀ d ∈ documents, c.codec.Writes d)
    (each : ∀ setting ∈ settings, ∃ j, c.codec.encode (valueOf setting) = .ok j
      ∧ Arrives setting (nameOf setting, j)) :
    c.PostsOnce operation documents Arrives settings w (t limits w).2 := by
  obtain ⟨args, forms⟩ := Codec.exists_forms writes
  obtain ⟨kwargs, entries, arrive⟩ := exists_entries each
  exact ⟨args, kwargs, undertakes.posts_of_fits c.serves fits isOpen ⟨forms.map_encode, entries⟩,
    forms, arrive⟩

/-- A search is refused if it is to skip more than 64 bits with a sign can count. -/
theorem find_of_large (filter : Option Document) {settings : List FindOption} {n : Nat}
    (set : .skip n ∈ FindOption.lasts settings) (large : 2 ^ 63 ≤ n) :
    c.find filter (.ofList settings) limits w = (.error (.failed (.usage "find"
      ("skip " ++ toString n ++ " exceeds the largest signed 64-bit value"))), w) := by
  rw [← FindOptions.held_ofList, FindOptions.skip_mem_held] at set
  unfold Collection.find
  rw [FindOptions.toKwargs_of_ge set large]
  rfl

/-- A filter is sent by position where there is one. -/
theorem filterArgs_eq (filter : Option Document) :
    filterArgs filter = filter.toList.map .document := by
  cases filter <;> rfl

/-- A search posts its filter and the last setting of each name. -/
theorem find_postsOnce (carries : c.codec.Carries) (isOpen : c.IsOpen w)
    {filter : Option Document} {settings : List FindOption}
    (fits : ∀ n, .skip n ∈ FindOption.lasts settings → n < 2 ^ 63)
    (writes : ∀ d ∈ filter.toList, c.codec.Writes d)
    (written : ∀ setting ∈ FindOption.lasts settings, ∀ d ∈ setting.documents, c.codec.Writes d) :
    c.PostsOnce "find" filter.toList (FindOption.Arrives c.codec) (FindOption.lasts settings) w
      (c.find filter (.ofList settings) limits w).2 := by
  have undertakes := c.find_undertakes filter settings
  have given : (FindOptions.ofList settings).toKwargs = .ok ((FindOption.lasts settings).map
      fun setting => (setting.name, setting.value)) := by
    rw [FindOptions.toKwargs_of_lt, FindOptions.held_ofList]
    intro n skipped
    rw [← FindOptions.skip_mem_held, FindOptions.held_ofList] at skipped
    exact fits n skipped
  unfold Gateway.call? at undertakes
  dsimp only at undertakes
  rw [given, filterArgs_eq] at undertakes
  refine postsOnce_of_undertakes undertakes (Shape.fits_find _ _) isOpen writes
    fun setting mem => ?_
  exact FindOption.exists_arrives carries (fun n same => fits n (same ▸ mem)) (written setting mem)

/-- An update posts its two documents and the last setting of each name. -/
theorem update_postsOnce (carries : c.codec.Carries) (isOpen : c.IsOpen w) {operation : String}
    (listed : operation = "update_one" ∨ operation = "update_many") {filter update : Document}
    {settings : List UpdateOption} (writes : ∀ d ∈ [filter, update], c.codec.Writes d)
    (written : ∀ setting ∈ UpdateOption.lasts settings, ∀ d ∈ setting.documents,
      c.codec.Writes d) :
    c.PostsOnce operation [filter, update] (UpdateOption.Arrives c.codec)
      (UpdateOption.lasts settings) w
      (c.update operation filter update (.ofList settings) limits w).2 := by
  have undertakes := c.update_undertakes operation filter update (.ofList settings)
  have form := Shape.formOf_update operation filter update (.ofList settings)
  rw [UpdateOptions.toKwargs_eq, UpdateOptions.held_ofList] at undertakes form
  have fits : Shape.collection.Fits ⟨operation, [.document filter, .document update],
      (UpdateOption.lasts settings).map fun setting => (setting.name, setting.value)⟩ := by
    rcases listed with rfl | rfl
    · exact (served ("update_one", Shape.updateForms) (by decide) rfl form).1
    · exact (served ("update_many", Shape.updateForms) (by decide) rfl form).1
  exact postsOnce_of_undertakes undertakes fits isOpen writes
    fun setting mem => UpdateOption.exists_arrives carries (written setting mem)

end Collection

/-! ## All options -/

/-- No option is lost on the way to the wire.  On an open client, and with documents that have
forms, a search posts one request: the form of its filter by position, if it has one, and by name
the last setting of each option that was set, in the order of `FindOption.names`; a number is read
back as the one that was set.  Only if the last number of documents to skip is beyond 64 bits with
a sign, nothing is posted and the search is misuse.  An update posts its two documents by position,
and by name the last settings of its two options.  Both codecs carry what options are made of. -/
theorem options_reach_the_wire :
    Codec.relaxed.Carries ∧ Codec.canonical.Carries
      ∧ ∀ c : Collection, c.codec.Carries → ∀ limits w, c.IsOpen w →
        (∀ filter settings,
          (∀ n, .skip n ∈ FindOption.lasts settings → 2 ^ 63 ≤ n →
            c.find filter (.ofList settings) limits w = (.error (.failed (.usage "find"
              ("skip " ++ toString n ++ " exceeds the largest signed 64-bit value"))), w))
          ∧ ((∀ n, .skip n ∈ FindOption.lasts settings → n < 2 ^ 63) →
            (∀ d ∈ filter.toList, c.codec.Writes d) →
            (∀ setting ∈ FindOption.lasts settings, ∀ d ∈ setting.documents, c.codec.Writes d) →
            c.PostsOnce "find" filter.toList (FindOption.Arrives c.codec)
              (FindOption.lasts settings) w (c.find filter (.ofList settings) limits w).2))
        ∧ ∀ filter update settings, (∀ d ∈ [filter, update], c.codec.Writes d) →
          (∀ setting ∈ UpdateOption.lasts settings, ∀ d ∈ setting.documents, c.codec.Writes d) →
          c.PostsOnce "update_one" [filter, update] (UpdateOption.Arrives c.codec)
              (UpdateOption.lasts settings) w
              (c.updateOne filter update (.ofList settings) limits w).2
            ∧ c.PostsOnce "update_many" [filter, update] (UpdateOption.Arrives c.codec)
              (UpdateOption.lasts settings) w
              (c.updateMany filter update (.ofList settings) limits w).2 := by
  refine ⟨Codec.relaxed_carries, Codec.canonical_carries, fun c carries limits w isOpen =>
    ⟨fun filter settings => ⟨fun n set large => ?_, fun fits writes written => ?_⟩,
      fun filter update settings writes written => ⟨?_, ?_⟩⟩⟩
  · exact Collection.find_of_large filter set large
  · exact Collection.find_postsOnce carries isOpen fits writes written
  · exact Collection.update_postsOnce carries isOpen (.inl rfl) writes written
  · exact Collection.update_postsOnce carries isOpen (.inr rfl) writes written

/-- A search whose options are set again: the last ones go out, up to the largest number that may
be skipped, and the next number is refused. -/
theorem repeated_options_reach_the_wire :
    (∃ args kwargs,
      (Collection.sample.find (some [("x", .null)]) (.ofList [.limit 5, .skip 7, .limit 3,
          .batchSize 4294967295, .skip 9223372036854775807]) ⟨0, none⟩
          (.start (.ofScript []))).2.posted
        = [Collection.sample.gateway.connection.request
          ⟨"find", args, kwargs, Collection.sample.route⟩]
      ∧ Codec.relaxed.Forms [[("x", .null)]] args
      ∧ List.Forall₂ (FindOption.Arrives .relaxed)
        [.skip 9223372036854775807, .limit 3, .batchSize 4294967295] kwargs)
      ∧ (Collection.sample.find none (.ofList [.skip 7, .skip 9223372036854775808]) ⟨0, none⟩
          (.start (.ofScript []))).2.posted = [] := by
  obtain ⟨carries, _, reach⟩ := options_reach_the_wire
  obtain ⟨finds, _⟩ := reach Collection.sample carries ⟨0, none⟩ (.start (.ofScript [])) rfl
  constructor
  · have lasts : FindOption.lasts [.limit 5, .skip 7, .limit 3, .batchSize 4294967295,
        .skip 9223372036854775807]
        = [.skip 9223372036854775807, .limit 3, .batchSize 4294967295] := rfl
    have posts := (finds (some [("x", .null)]) [.limit 5, .skip 7, .limit 3,
      .batchSize 4294967295, .skip 9223372036854775807]).2
    rw [lasts] at posts
    refine posts (fun n set => ?_) (fun d given => ?_) fun setting set d held => ?_
    · simp only [List.mem_cons, List.not_mem_nil, FindOption.skip.injEq, reduceCtorEq,
        or_false] at set
      omega
    · cases List.mem_singleton.mp given
      exact ⟨_, rfl⟩
    · simp only [List.mem_cons, List.not_mem_nil, or_false] at set
      rcases set with rfl | rfl | rfl <;> cases held
  · rw [(finds none [.skip 7, .skip 9223372036854775808]).1 9223372036854775808 ?_ (by decide)]
    · rfl
    · exact .head _

end RemoteDriver
