import RemoteDriver.Proofs.Bson.Settled
import RemoteDriver.Proofs.Lookup
import RemoteDriver.Proofs.Number.Decimal128
import RemoteDriver.Proofs.Text.RoundTrip
import RemoteDriver.Proofs.Time.Rfc3339

/-!
# Values over the wire and back

Every value that crosses the wire is read from its relaxed form as what becomes of it, and what
becomes of it is written as it was (`round_trip`).  Whatever is read from JSON crosses the wire, as
long as it holds neither code with a scope nor a double that is no finite number
(`crosses_of_read`), so nothing that was received once is changed any further.
-/

namespace RemoteDriver.Bson

open Json (Fault asString field checkMembers recordMembers)

/-! ## Objects with a mark -/

/-- An object whose only member has a reserved name has that mark. -/
theorem of?_marked (m : Mark) (v : Json) : Mark.of? [(m.name, v)] = some m := by
  cases m <;> rfl

/-- An object with a mark is read as a typed value. -/
theorem read_marked (m : Mark) (v : Json) :
    read (marked m v) = readMarked [(m.name, v)] none m := by
  have scopeless : m.name ≠ "$scope" := by cases m <;> decide
  rw [marked, single, read, of?_marked]
  dsimp only
  rw [readScope, if_neg scopeless, readScope]

/-- The only member of an object with a mark passes if it can be read. -/
theorem onlyRecord_marked {α : Type} {m : Mark} {readRecord : Json → Except Fault α} {v : Json}
    {a : α} (h : readRecord v = .ok a) : onlyRecord m readRecord [(m.name, v)] = .ok a := by
  have known : m.name ∈ [m.name] := List.mem_singleton.mpr rfl
  simp only [onlyRecord, checkMembers, if_pos known, field, List.lookup_cons_self, h, bind,
    Except.bind, pure, Except.pure]

/-- The text behind a mark is read back where a text is asked for. -/
theorem onlyText_marked (m : Mark) (s : String) : onlyText m [(m.name, .string s)] = .ok s := by
  have known : m.name ∈ [m.name] := List.mem_singleton.mpr rfl
  simp only [onlyText, checkMembers, if_pos known, field, List.lookup_cons_self, isText,
    asString, bind, Except.bind, pure, Except.pure]

/-! ## Texts that stand for values -/

/-- The text of an identifier stands for it. -/
theorem ofText_text (id : ObjectId) : ObjectId.ofText id.text = .ok id := by
  rw [ObjectId.ofText, ObjectId.text, String.toList_ofList, Text.Hex.decode_encode]
  dsimp only
  rw [ObjectId.ofBytes?, dif_pos id.length_bytes]

/-- A long integer is read back from its decimal digits. -/
theorem int64OfText_toString (n : Int64) : int64OfText (toString n.toInt) = .ok n := by
  have low := n.le_toInt
  have high := n.toInt_lt
  rw [int64OfText, ofText, Number.intWithin?_toString (by rw [Number.minInt64]; omega)
    (by rw [Number.maxInt64]; omega)]
  dsimp only [Option.map]
  rw [Int64.ofInt_toInt]

/-- A date that has a text is read back from it, to the millisecond. -/
theorem instantOfText_write {ms : Int64} (h : Time.Rfc3339.hasText ms.toInt = true) :
    instantOfText (String.ofList (Time.Rfc3339.write ms.toInt.toNat)) = .ok ms := by
  have whole : (ms.toInt.toNat : Int) = ms.toInt := by
    simp only [Time.Rfc3339.hasText, Bool.and_eq_true, decide_eq_true_eq] at h
    omega
  rw [instantOfText, ofText, String.toList_ofList,
    Time.Rfc3339.read?_write (by rw [whole]; exact h), whole]
  dsimp only [Option.map]
  rw [Int64.ofInt_toInt]

/-- Bytes and their kind are read back from base64 and hexadecimal digits. -/
theorem binaryOfTexts_encode (subtype : UInt8) (bytes : List UInt8) :
    binaryOfTexts (String.ofList (Text.Base64.encode bytes))
        (String.ofList (Text.Hex.encode [subtype]))
      = .ok (.binary subtype bytes) := by
  simp only [binaryOfTexts, ofText, String.toList_ofList, Text.Base64.decode_encode, hexBytes?,
    Text.Hex.decode_encode, bind, Except.bind, pure, Except.pure]

/-! ## Typed values over the wire -/

/-- An object identifier comes back from its twenty-four digits. -/
theorem read_writeIdentifier (id : ObjectId) : read (writeIdentifier id) = .ok (.objectId id) := by
  rw [writeIdentifier, read_marked, readMarked, onlyText_marked]
  dsimp only [bind, Except.bind]
  rw [ofText_text]
  rfl

/-- A date comes back from the milliseconds it is written as. -/
theorem read_writeMilliseconds (ms : Int64) : read (writeMilliseconds ms) = .ok (.dateTime ms) := by
  have form : readInstantForm (marked .int64 (intText ms.toInt))
      = .ok (.milliseconds (toString ms.toInt)) := rfl
  rw [writeMilliseconds, read_marked, readMarked, onlyRecord_marked form]
  dsimp only [bind, Except.bind, InstantForm.instant]
  rw [int64OfText_toString]
  rfl

/-- A date comes back as it was, whether it is written as a text or as milliseconds. -/
theorem read_writeInstant (ms : Int64) : read (writeInstant ms) = .ok (.dateTime ms) := by
  unfold writeInstant
  split
  · next h =>
    have form (text : String) : readInstantForm (.string text) = .ok (.rfc3339 text) := rfl
    rw [read_marked, readMarked, onlyRecord_marked (form _)]
    dsimp only [bind, Except.bind, InstantForm.instant]
    rw [instantOfText_write h]
    rfl
  · exact read_writeMilliseconds ms

/-- A regular expression comes back with its options in order. -/
theorem read_writePattern (pattern options : String) :
    read (writePattern pattern options)
      = .ok (.regularExpression pattern (sortedText options)) := by
  have form : readPattern (.object [("pattern", .string pattern),
      ("options", .string (sortedText options))]) = .ok (pattern, sortedText options) := rfl
  rw [writePattern, read_marked, readMarked, onlyRecord_marked form]
  dsimp only [bind, Except.bind]
  rw [sortedText_sortedText]
  rfl

/-- Bytes come back with their kind. -/
theorem read_writeBinary (subtype : UInt8) (bytes : List UInt8) :
    read (writeBinary subtype bytes) = .ok (.binary subtype bytes) := by
  have form (base64 kind : String) : readBytes (.object [("base64", .string base64),
      ("subType", .string kind)]) = .ok (base64, kind) := rfl
  rw [writeBinary, read_marked, readMarked, onlyRecord_marked (form _ _)]
  exact binaryOfTexts_encode subtype bytes

/-- A word of 32 bits is read from its number. -/
theorem asNatural_word (n : UInt32) :
    Json.asNatural "u32" Number.maxUInt32 (.ofInt n.toNat) = .ok n.toNat := by
  have bound := n.toNat_lt
  rw [Json.ofInt, Json.asNatural, if_pos (by rw [Number.maxUInt32]; omega), Int.toNat_natCast]

/-- A timestamp comes back with its time and its increment. -/
theorem read_writeTimestamp (time increment : UInt32) :
    read (writeTimestamp time increment) = .ok (.timestamp time increment) := by
  have form : readTimestamp (.object [("t", .ofInt time.toNat), ("i", .ofInt increment.toNat)])
      = .ok (time.toNat, increment.toNat) := by
    simp [readTimestamp, recordMembers, checkMembers, field, List.lookup_cons, asNatural_word, bind,
      Except.bind, pure, Except.pure]
  rw [writeTimestamp, read_marked, readMarked, onlyRecord_marked form]
  simp [bind, Except.bind, pure, Except.pure]

/-- A reference comes back with its collection and its identifier. -/
theorem read_writeReference (collection : String) (id : ObjectId) :
    read (writeReference collection id) = .ok (.dbPointer collection id) := by
  have form : readReference (.object [("$ref", .string collection), ("$id", writeIdentifier id)])
      = .ok (collection, id.text) := rfl
  rw [writeReference, read_marked, readMarked, onlyRecord_marked form]
  dsimp only [bind, Except.bind]
  rw [ofText_text]
  rfl

/-- A symbol comes back. -/
theorem read_symbol (s : String) : read (marked .symbol (.string s)) = .ok (.symbol s) := by
  rw [read_marked, readMarked, onlyText_marked]
  rfl

/-- Code without a scope comes back. -/
theorem read_code (code : String) :
    read (marked .code (.string code)) = .ok (.javaScriptCode code) := by
  rw [read_marked]
  rfl

/-- A decimal that there is room for comes back, without sign and mark if it is no number. -/
theorem read_decimal {d : Decimal128} (fits : d.Fits) :
    read (marked .decimal128 (.string d.text)) = .ok (.decimal128 d.quiet) := by
  rw [read_marked, readMarked, onlyText_marked]
  dsimp only [bind, Except.bind]
  rw [decimalOfText, ofText, Decimal128.ofText?_text fits]
  rfl

/-- The undefined value comes back. -/
theorem read_undefined : read (marked .undefined (.boolean true)) = .ok .undefined := by
  rw [read_marked]
  rfl

/-- The least key comes back. -/
theorem read_minKey : read (marked .minKey (.ofInt 1)) = .ok .minKey := by
  rw [read_marked]
  rfl

/-- The greatest key comes back. -/
theorem read_maxKey : read (marked .maxKey (.ofInt 1)) = .ok .maxKey := by
  rw [read_marked]
  rfl

/-! ## Numbers over the wire -/

/-- A whole number of 32 bits is read as a short integer. -/
theorem ofNumber_int32 (n : Int32) : ofNumber (.whole n.toInt) = .int32 n := by
  have low := n.le_toInt
  have high := n.toInt_lt
  have fits : Number.fitsInt32 n.toInt = true := by
    unfold Number.fitsInt32 Number.minInt32 Number.maxInt32
    simp only [Bool.and_eq_true, decide_eq_true_eq]
    omega
  rw [ofNumber, if_pos fits, Int32.ofInt_toInt]

/-- A number of 64 bits comes back in the narrower type if that holds it. -/
theorem ofNumber_int64 (onDecimal : Decimal128 → Decimal128) (n : Int64) :
    ofNumber (.whole n.toInt) = settled onDecimal (.int64 n) := by
  have low := n.le_toInt
  have high := n.toInt_lt
  have fits : Number.fitsInt64 n.toInt = true := by
    unfold Number.fitsInt64 Number.minInt64 Number.maxInt64
    simp only [Bool.and_eq_true, decide_eq_true_eq]
    omega
  rw [ofNumber, settled, if_pos fits, Int64.ofInt_toInt]

/-! ## Documents over the wire -/

/-- The fields of a document keep their names and their order on the wire. -/
theorem names_relaxedFields (fields : Document) :
    (relaxedFields fields).map (·.1) = fields.map (·.1) := by
  induction fields with
  | nil => rfl
  | cons field rest ih =>
    obtain ⟨name, v⟩ := field
    rw [relaxedFields, List.map_cons, List.map_cons, ih]

/-- The list of marks is complete. -/
theorem Mark.mem_all (m : Mark) : m ∈ Mark.all := by cases m <;> decide

/-- An object has no mark exactly if none of its names is reserved. -/
theorem of?_eq_none {members : List (String × Json)} :
    Mark.of? members = none ↔ ∀ m : Mark, m.name ∉ members.map (·.1) := by
  rw [Mark.of?, List.find?_eq_none]
  constructor
  · intro h m mem
    exact h m m.mem_all (isSome_lookup_iff.mpr mem)
  · intro h m _ found
    exact h m (isSome_lookup_iff.mp found)

mutual

/-- A value that crosses the wire comes back as what becomes of it. -/
theorem read_relaxed {v : Value} (h : Throughout Crosses v) :
    read (relaxed v) = .ok (settled Decimal128.quiet v) := by
  cases v with
  | double d =>
    have finite : d.isFinite = true := h
    rw [relaxed, writeDouble, if_pos finite]
    rfl
  | string s => rfl
  | array items =>
    rw [relaxed, read, readItems_relaxedItems h.2]
    rfl
  | document fields =>
    have plain : Mark.of? (relaxedFields fields) = none := by
      rw [of?_eq_none, names_relaxedFields]
      exact h.1
    rw [relaxed, read, plain]
    dsimp only
    rw [readDocument_relaxedFields h.2]
    rfl
  | boolean b => rfl
  | null => rfl
  | regularExpression pattern options => exact read_writePattern pattern options
  | javaScriptCode code => exact read_code code
  | javaScriptCodeWithScope code scope => exact h.elim
  | int32 n =>
    rw [relaxed, Json.ofInt, read, ofNumber_int32]
    rfl
  | int64 n => rw [relaxed, Json.ofInt, read, ofNumber_int64]
  | timestamp time increment => exact read_writeTimestamp time increment
  | binary subtype bytes => exact read_writeBinary subtype bytes
  | objectId id => exact read_writeIdentifier id
  | dateTime ms => exact read_writeInstant ms
  | symbol s => exact read_symbol s
  | decimal128 d =>
    obtain ⟨text, ht⟩ := h
    exact read_decimal (Decimal128.fits_of_ofText? ht)
  | undefined => exact read_undefined
  | maxKey => exact read_maxKey
  | minKey => exact read_minKey
  | dbPointer collection id => exact read_writeReference collection id

/-- An array comes back item by item. -/
theorem readItems_relaxedItems {items : List Value} (h : ThroughoutItems Crosses items) :
    readItems (relaxedItems items) = .ok (settledItems Decimal128.quiet items) := by
  cases items with
  | nil => rfl
  | cons v vs =>
    rw [relaxedItems, readItems, read_relaxed h.1]
    dsimp only
    rw [readItems_relaxedItems h.2]
    rfl

/-- A document comes back field by field. -/
theorem readDocument_relaxedFields {fields : Document} (h : ThroughoutFields Crosses fields) :
    readDocument (relaxedFields fields) = .ok (settledFields Decimal128.quiet fields) := by
  cases fields with
  | nil => rfl
  | cons field rest =>
    obtain ⟨name, v⟩ := field
    rw [relaxedFields, readDocument, read_relaxed h.1]
    dsimp only
    rw [readDocument_relaxedFields h.2]
    rfl

end

/-! ## What JSON brings -/

/-- Where a composed reading succeeds, so do both of its steps. -/
theorem ok_of_bind {α β : Type} {x : Except Fault α} {f : α → Except Fault β} {b : β}
    (h : (x >>= f) = .ok b) : ∃ a, x = .ok a ∧ f a = .ok b := by
  cases x with
  | error e => cases h
  | ok a => exact ⟨a, rfl, h⟩

/-- A decimal number of JSON is one that a text stands for. -/
theorem exists_text_of_decimalOfText {text : String} {d : Decimal128}
    (h : decimalOfText text = .ok d) : ∃ s, Decimal128.ofText? s = some d := by
  unfold decimalOfText ofText at h
  split at h
  · next read =>
    cases h
    exact ⟨_, read⟩
  · cases h

/-- A typed value of JSON crosses the wire, if it is plain. -/
theorem crosses_of_readMarked {members : List (String × Json)}
    {scope : Option (Except Fault Document)} {m : Mark} {v : Value}
    (h : readMarked members scope m = .ok v) (plain : Throughout IsPlain v) :
    Throughout Crosses v := by
  -- only a double, a decimal and a scope could be in the way
  cases m with
  | objectId | int32 | int64 | uuid | dateTime | dbPointer =>
    obtain ⟨_, _, h⟩ := ok_of_bind h
    obtain ⟨_, _, h⟩ := ok_of_bind h
    cases h
    trivial
  | symbol | regularExpression | timestamp | minKey | maxKey =>
    obtain ⟨_, _, h⟩ := ok_of_bind h
    cases h
    trivial
  | double =>
    obtain ⟨_, _, h⟩ := ok_of_bind h
    obtain ⟨d, _, h⟩ := ok_of_bind h
    cases h
    exact plain
  | decimal128 =>
    obtain ⟨_, _, h⟩ := ok_of_bind h
    obtain ⟨d, read, h⟩ := ok_of_bind h
    cases h
    exact exists_text_of_decimalOfText read
  | binary =>
    obtain ⟨_, _, h⟩ := ok_of_bind h
    obtain ⟨_, _, h⟩ := ok_of_bind h
    obtain ⟨_, _, h⟩ := ok_of_bind h
    split at h
    · cases h
      trivial
    · cases h
  | code =>
    obtain ⟨_, _, h⟩ := ok_of_bind h
    split at h
    · obtain ⟨_, _, h⟩ := ok_of_bind h
      cases h
      exact plain.elim
    · cases h
      trivial
  | undefined =>
    obtain ⟨_, _, h⟩ := ok_of_bind h
    split at h
    · cases h
      trivial
    · cases h

/-- A number that is read crosses the wire if it is finite. -/
theorem crosses_ofNumber {n : Json.Number} (plain : Throughout IsPlain (ofNumber n)) :
    Throughout Crosses (ofNumber n) := by
  cases n with
  | double d => exact plain
  | whole n =>
    unfold ofNumber at plain ⊢
    dsimp only at plain ⊢
    split
    · trivial
    · next notNarrow =>
      rw [if_neg notNarrow] at plain
      split
      · trivial
      · next notWide =>
        rw [if_neg notWide] at plain
        exact plain

/-- Fields that are read have the names of the members. -/
theorem names_readDocument {members : List (String × Json)} {fields : Document}
    (h : readDocument members = .ok fields) : fields.map (·.1) = members.map (·.1) := by
  induction members generalizing fields with
  | nil =>
    cases h
    rfl
  | cons member rest ih =>
    obtain ⟨name, v⟩ := member
    rw [readDocument] at h
    split at h
    · cases h
    split at h
    · cases h
    · next hr =>
      cases h
      rw [List.map_cons, List.map_cons, ih hr]

mutual

/-- Whatever is read from JSON crosses the wire, if it is plain. -/
theorem crosses_of_read {j : Json} {v : Value} (h : read j = .ok v)
    (plain : Throughout IsPlain v) : Throughout Crosses v := by
  cases j with
  | null | boolean | string =>
    cases h
    trivial
  | number n =>
    cases h
    exact crosses_ofNumber plain
  | array items =>
    rw [read] at h
    cases hi : readItems items with
    | error e =>
      rw [hi] at h
      cases h
    | ok vs =>
      rw [hi] at h
      cases h
      exact ⟨trivial, crosses_of_readItems hi plain.2⟩
  | object members =>
    rw [read] at h
    split at h
    · next unmarked =>
      cases hd : readDocument members with
      | error e =>
        rw [hd] at h
        cases h
      | ok fields =>
        rw [hd] at h
        cases h
        refine ⟨?_, crosses_of_readDocument hd plain.2⟩
        show ∀ m : Mark, m.name ∉ fields.map (·.1)
        rw [names_readDocument hd]
        exact of?_eq_none.mp unmarked
    · exact crosses_of_readMarked h plain

/-- The items of an array that was read cross the wire. -/
theorem crosses_of_readItems {items : List Json} {vs : List Value} (h : readItems items = .ok vs)
    (plain : ThroughoutItems IsPlain vs) : ThroughoutItems Crosses vs := by
  cases items with
  | nil =>
    cases h
    trivial
  | cons j js =>
    rw [readItems] at h
    split at h
    · cases h
    · next hv =>
      split at h
      · cases h
      · next hvs =>
        cases h
        exact ⟨crosses_of_read hv plain.1, crosses_of_readItems hvs plain.2⟩

/-- The fields of a document that was read cross the wire. -/
theorem crosses_of_readDocument {members : List (String × Json)} {fields : Document}
    (h : readDocument members = .ok fields) (plain : ThroughoutFields IsPlain fields) :
    ThroughoutFields Crosses fields := by
  cases members with
  | nil =>
    cases h
    trivial
  | cons member rest =>
    obtain ⟨name, j⟩ := member
    rw [readDocument] at h
    split at h
    · cases h
    · next hv =>
      split at h
      · cases h
      · next hvs =>
        cases h
        exact ⟨crosses_of_read hv plain.1, crosses_of_readDocument hvs plain.2⟩

end

/-! ## The round trip -/

/-- A signalling decimal that is no number is written as a quiet one. -/
theorem text_quiet (d : Decimal128) : d.quiet.text = d.text := by
  cases d <;> rfl

/-- Over the wire and back with the relaxed codec: a value that crosses the wire can be sent, it
comes back as what becomes of it, and that is sent as the same JSON; and every value that came from
JSON crosses the wire, if it is plain. -/
theorem relaxed_round_trip :
    (∀ v, Throughout Crosses v →
        ∃ j, Codec.relaxed.encode v = .ok j
          ∧ Codec.relaxed.decode j = .ok (settled Decimal128.quiet v)
          ∧ Codec.relaxed.encode (settled Decimal128.quiet v) = .ok j)
      ∧ ∀ j v, Codec.relaxed.decode j = .ok v → Throughout IsPlain v → Throughout Crosses v := by
  constructor
  · intro v h
    have finite := nonFinite?_of_crosses h
    refine ⟨relaxed v, ?_, ?_, ?_⟩
    · simp only [Codec.relaxed, Codec.validateFinite, finite]
    · simp only [Codec.relaxed, Codec.readExtended, read_relaxed h]
    · simp only [Codec.relaxed, Codec.validateFinite, nonFinite?_settled, finite,
        relaxed_settled text_quiet]
  · intro j v h plain
    simp only [Codec.relaxed, Codec.readExtended] at h
    split at h
    · next hr =>
      cases h
      exact crosses_of_read hr plain
    · cases h

/-- What is no number does not keep its sign and its mark: a decimal that is read from a text and
sent comes back as another datum. -/
theorem signalling_nan_is_lost :
    ¬ ∀ v, Throughout Crosses v →
        ∃ j, Codec.relaxed.encode v = .ok j ∧ Codec.relaxed.decode j = .ok (settled id v)
          ∧ Codec.relaxed.encode (settled id v) = .ok j := by
  intro all
  have crosses : Throughout Crosses (.decimal128 (.nan true true)) :=
    ⟨"-SNaN".toList, by decide⟩
  obtain ⟨j, written, back, _⟩ := all _ crosses
  simp only [Codec.relaxed, Codec.validateFinite, nonFinite?_of_crosses crosses,
    Except.ok.injEq] at written
  subst written
  simp only [Codec.relaxed, Codec.readExtended, read_relaxed crosses, settled,
    Decimal128.quiet] at back
  cases back

end RemoteDriver.Bson
