import Mathlib.Logic.Relation
import RemoteDriver.Proofs.Lookup
import RemoteDriver.Proofs.Wire.Envelope
import RemoteDriver.Reply

/-!
# What is understood of a response

A part of a result set is decoded document by document: it is understood if and only if each of
them is, and otherwise the first that is not makes an error of the whole (`Reply.decode_cursor`).

Of a record only the members of its format are read, and some of them may be missing.  So nothing
of what is understood depends on the order of the members, on further ones, or on whether a member
says what it would stand for if it were missing (`Format.Revision`).  This goes for responses and
for the records that they carry (`Response.Revises`): what is understood of a response stays as it
was under any number of such changes and of changes back (`Reply.decode_of_revised`).

The main statement is `Reply.decodes_whole_and_tolerant`.
-/

namespace RemoteDriver

namespace Json

/-- Members pass if each of those that are known does. -/
theorem checkKnown_ok_iff {known : List String} {check : String → Json → Except Fault Unit}
    {l : List (String × Json)} :
    checkKnown known check l = .ok () ↔ ∀ m ∈ l, m.1 ∈ known → check m.1 m.2 = .ok () := by
  rw [checkKnown]
  induction l with
  | nil => simp [checkMembers]
  | cons m l ih =>
    rw [List.forall_mem_cons, ← ih]
    by_cases member : m.1 ∈ known
    · have kept : known.contains m.1 = true := List.contains_iff_mem.mpr member
      rw [List.filter_cons, if_pos kept, checkMembers, if_pos member]
      rcases check m.1 m.2 with e | ⟨⟩ <;> simp [member]
    · have left : ¬known.contains m.1 = true := fun no => member (List.contains_iff_mem.mp no)
      rw [List.filter_cons, if_neg left]
      simp [member]

end Json

namespace Response

open Json (Fault)

/-! ## Formats and what they leave open -/

/-- How a record is read: by the names of its members, with what a missing one stands for. -/
structure Format where
  /-- The names that are read. -/
  names : List String
  /-- What members that may be missing stand for then. -/
  implied : List (String × Json)

namespace Format

/-- One change that a format leaves open to the members of a record. -/
inductive Revision (f : Format) : List (String × Json) → List (String × Json) → Prop
  /-- The members in another order. -/
  | permuted {l l' : List (String × Json)} (names : (l.map (·.1)).Nodup) (perm : l.Perm l') :
    Revision f l l'
  /-- One more member, of a name that is not read. -/
  | extended {l : List (String × Json)} {name : String} (unknown : name ∉ f.names) (value : Json) :
    Revision f l (l ++ [(name, value)])
  /-- One more member, which says what it stood for while it was missing. -/
  | supplied {l : List (String × Json)} {name : String} {value : Json}
    (implied : (name, value) ∈ f.implied) (missing : name ∉ l.map (·.1)) :
    Revision f l (l ++ [(name, value)])

namespace Revision

variable {f : Format} {l l' : List (String × Json)} {name : String}

/-- A member stays as it is, or says what it stood for while it was missing. -/
theorem lookup_eq_or (r : f.Revision l l') (known : name ∈ f.names) :
    l.lookup name = l'.lookup name
      ∨ ∃ v, (name, v) ∈ f.implied ∧ l.lookup name = none ∧ l'.lookup name = some v := by
  have appended {n : String} (other : name ≠ n) (v : Json) :
      l.lookup name = (l ++ [(n, v)]).lookup name := by
    rw [List.lookup_append, List.lookup_cons, beq_false_of_ne other, List.lookup_nil,
      Option.or_none]
  cases r with
  | permuted names perm => exact .inl (lookup_perm perm names name)
  | @extended n unknown v =>
    exact .inl (appended (fun same : name = n => unknown (same ▸ known)) v)
  | @supplied n v implied missing =>
    by_cases same : name = n
    · subst same
      have none : l.lookup name = none :=
        Option.not_isSome_iff_eq_none.mp fun found => missing (isSome_lookup_iff.mp found)
      refine .inr ⟨v, implied, none, ?_⟩
      rw [List.lookup_append, none, Option.none_or, List.lookup_cons_self]
    · exact .inl (appended same v)

/-- A member that may not be missing stays as it is. -/
theorem lookup_eq (r : f.Revision l l') (known : name ∈ f.names)
    (required : ∀ v, (name, v) ∉ f.implied) : l.lookup name = l'.lookup name := by
  rcases r.lookup_eq_or known with same | ⟨v, implied, -⟩
  · exact same
  · exact absurd implied (required v)

/-- A member that may be missing stays as it is, if what it stands for then is put in its place. -/
theorem getD_eq (r : f.Revision l l') (known : name ∈ f.names) {d : Json}
    (only : ∀ v, (name, v) ∈ f.implied → v = d) :
    (l.lookup name).getD d = (l'.lookup name).getD d := by
  rcases r.lookup_eq_or known with same | ⟨v, implied, missing, given⟩
  · rw [same]
  · rw [missing, given, Option.getD_none, Option.getD_some, only v implied]

/-- The members pass a check before and after, if what missing ones stand for passes it. -/
theorem checks_iff (r : f.Revision l l') {check : String → Json → Except Fault Unit}
    (passes : ∀ m ∈ f.implied, check m.1 m.2 = .ok ()) :
    Json.checkKnown f.names check l = .ok () ↔ Json.checkKnown f.names check l' = .ok () := by
  rw [Json.checkKnown_ok_iff, Json.checkKnown_ok_iff]
  cases r with
  | permuted _ perm =>
    exact forall_congr' fun m => by rw [perm.mem_iff]
  | extended unknown v =>
    rw [List.forall_mem_append, List.forall_mem_singleton]
    exact (and_iff_left fun known => absurd known unknown).symm
  | supplied implied _ =>
    rw [List.forall_mem_append, List.forall_mem_singleton]
    exact (and_iff_left fun _ => passes _ implied).symm

/-- Checked members are read before and after, if the same is read of both. -/
theorem reads_iff {α : Type} (r : f.Revision l l') {check : String → Json → Except Fault Unit}
    (passes : ∀ m ∈ f.implied, check m.1 m.2 = .ok ())
    {read : List (String × Json) → Except Fault α} (same : read l = read l') {a : α} :
    ((Json.checkKnown f.names check l).bind fun _ => read l) = .ok a
      ↔ ((Json.checkKnown f.names check l').bind fun _ => read l') = .ok a := by
  have passed {x : Except Fault Unit} {y : Except Fault α} :
      (x.bind fun _ => y) = .ok a ↔ x = .ok () ∧ y = .ok a := by
    rcases x with e | ⟨⟩ <;> simp [Except.bind]
  rw [passed, passed, r.checks_iff passes, same]

end Revision

end Format

/-- The format of a part of a result set. -/
def Format.cursor : Format where
  names := ["cursor_id", "batch", "namespace"]
  implied := [("cursor_id", .null), ("namespace", .null)]

/-- The format of a step of a subscription. -/
def Format.stream : Format where
  names := ["stream_id", "resume_token", "event", "alive"]
  implied := [("stream_id", .null), ("resume_token", .null), ("event", .null),
    ("alive", .boolean true)]

/-- The format of a response of a kind. -/
def Kind.format (kind : Kind) : Format where
  names := ["kind", kind.member]
  implied := if kind = .value then [("payload", .null)] else []

/-- The format of what a response of a kind carries, where that is a record. -/
def Kind.payloadFormat? : Kind → Option Format
  | cursor => some .cursor
  | stream => some .stream
  | _ => none

/-- One change that the formats leave open to a response: to its own members, or to those of the
record that it carries. -/
inductive Revises : Json → Json → Prop
  /-- The members of the response change. -/
  | envelope {kind : Kind} {l l' : List (String × Json)}
    (named : l.lookup "kind" = some (.string kind.name)) (revision : kind.format.Revision l l') :
    Revises (.object l) (.object l')
  /-- The members of what the response carries change. -/
  | payload {kind : Kind} {format : Format} {before after p p' : List (String × Json)}
    (named : (before ++ ("payload", .object p) :: after).lookup "kind" = some (.string kind.name))
    (carries : kind.payloadFormat? = some format) (revision : format.Revision p p') :
    Revises (.object (before ++ ("payload", .object p) :: after))
      (.object (before ++ ("payload", .object p') :: after))

/-! ## Reading responses -/

/-- A default is what is read of the value that stands for it. -/
theorem fieldOr_eq {α : Type} {name : String} {default : α} {read : Json → Except Fault α}
    {v : Json} (reads : read v = .ok default) (members : List (String × Json)) :
    fieldOr name default read members = read ((members.lookup name).getD v) := by
  rw [fieldOr]
  rcases members.lookup name with _ | w
  · rw [Option.getD_none, reads]
  · rfl

/-- Null stands for a missing text. -/
theorem optionalText_null : optionalText .null = .ok none := rfl

/-- A part of a result set from members of the right types. -/
def cursorOf (p : List (String × Json)) : Except Fault Response := do
  let id ← optionalText ((p.lookup "cursor_id").getD .null)
  let batch ← asItems ((p.lookup "batch").getD (.array []))
  let origin ← optionalText ((p.lookup "namespace").getD .null)
  return .cursor id batch origin

/-- A step of a subscription from members of the right types. -/
def streamOf (p : List (String × Json)) : Except Fault Response := do
  let id ← optionalText ((p.lookup "stream_id").getD .null)
  let alive ← Json.asBoolean ((p.lookup "alive").getD (.boolean true))
  return .stream id ((p.lookup "resume_token").getD .null) ((p.lookup "event").getD .null) alive

/-- The members of an object are read once they are checked. -/
theorem payloadMembers_bind {type : String} {names : List String}
    {check : String → Json → Except Fault Unit} {α : Type}
    (read : List (String × Json) → Except Fault α) (p : List (String × Json)) :
    (payloadMembers type names check (.object p)).bind read
      = (Json.checkKnown names check p).bind fun _ => read p := by
  rw [payloadMembers]
  rcases Json.checkKnown names check p with e | ⟨⟩ <;> rfl

/-- A part of a result set is checked as a whole before it is put together. -/
theorem readCursor_object (p : List (String × Json)) :
    readCursor (.object p)
      = (Json.checkKnown Format.cursor.names checkCursor p).bind fun _ => cursorOf p := by
  have batch : asItems (.array []) = .ok [] := rfl
  rw [cursorOf, ← fieldOr_eq optionalText_null, ← fieldOr_eq batch, ← fieldOr_eq optionalText_null]
  exact payloadMembers_bind (fun p => do
    let id ← fieldOr "cursor_id" none optionalText p
    let batch ← fieldOr "batch" [] asItems p
    let origin ← fieldOr "namespace" none optionalText p
    return Response.cursor id batch origin) p

/-- A step of a subscription is checked as a whole before it is put together. -/
theorem readStream_object (p : List (String × Json)) :
    readStream (.object p)
      = (Json.checkKnown Format.stream.names checkStream p).bind fun _ => streamOf p := by
  have alive : Json.asBoolean (.boolean true) = .ok true := rfl
  rw [streamOf, ← fieldOr_eq optionalText_null, ← fieldOr_eq alive]
  exact payloadMembers_bind (fun p => do
    let id ← fieldOr "stream_id" none optionalText p
    let alive ← fieldOr "alive" true Json.asBoolean p
    return Response.stream id ((p.lookup "resume_token").getD .null)
      ((p.lookup "event").getD .null) alive) p

variable {kind : Kind} {format : Format} {l l' p p' : List (String × Json)}

/-- A part of a result set is the same after a change that its format leaves open. -/
theorem cursorOf_eq (r : Format.cursor.Revision p p') : cursorOf p = cursorOf p' := by
  have id : (p.lookup "cursor_id").getD .null = (p'.lookup "cursor_id").getD .null :=
    r.getD_eq (by decide) (by simp [Format.cursor])
  have batch : (p.lookup "batch").getD (.array []) = (p'.lookup "batch").getD (.array []) :=
    r.getD_eq (by decide) (by simp [Format.cursor])
  have origin : (p.lookup "namespace").getD .null = (p'.lookup "namespace").getD .null :=
    r.getD_eq (by decide) (by simp [Format.cursor])
  rw [cursorOf, cursorOf, id, batch, origin]

/-- A step of a subscription is the same after a change that its format leaves open. -/
theorem streamOf_eq (r : Format.stream.Revision p p') : streamOf p = streamOf p' := by
  have id : (p.lookup "stream_id").getD .null = (p'.lookup "stream_id").getD .null :=
    r.getD_eq (by decide) (by simp [Format.stream])
  have token : (p.lookup "resume_token").getD .null = (p'.lookup "resume_token").getD .null :=
    r.getD_eq (by decide) (by simp [Format.stream])
  have event : (p.lookup "event").getD .null = (p'.lookup "event").getD .null :=
    r.getD_eq (by decide) (by simp [Format.stream])
  have alive : (p.lookup "alive").getD (.boolean true) = (p'.lookup "alive").getD (.boolean true) :=
    r.getD_eq (by decide) (by simp [Format.stream])
  rw [streamOf, streamOf, id, token, event, alive]

/-- A record that a response carries is read before and after. -/
theorem readKind_iff (carries : kind.payloadFormat? = some format) (r : format.Revision p p')
    {response : Response} :
    readKind kind (.object p) = .ok response ↔ readKind kind (.object p') = .ok response := by
  cases kind with
  | value => cases carries
  | error => cases carries
  | cursor =>
    cases carries
    rw [readKind, readKind, readCursor_object, readCursor_object]
    exact r.reads_iff (by simp [Format.cursor, checkCursor, optionalText]) (cursorOf_eq r)
  | stream =>
    cases carries
    rw [readKind, readKind, readStream_object, readStream_object]
    exact r.reads_iff (by simp [Format.stream, checkStream, optionalText, Json.asBoolean])
      (streamOf_eq r)

/-- A kind is read from its name. -/
theorem Kind.ofJson_name (kind : Kind) : Kind.ofJson (.string kind.name) = .ok kind := by
  cases kind <;> rfl

/-- A response of a kind is read from what it carries; without it, a value is `null`. -/
theorem ofMembers_of_kind (kind : Kind) (named : l.lookup "kind" = some (.string kind.name)) :
    ofMembers l = match l.lookup kind.member with
      | some payload => readKind kind payload
      | none =>
        if kind = .value then .ok (.value .null) else .error (.missingField kind.member) := by
  rw [ofMembers, named]
  dsimp only
  rw [kind.ofJson_name]
  rfl

/-- A missing value is `null`. -/
theorem ofMembers_of_value (named : l.lookup "kind" = some (.string "value")) :
    ofMembers l = .ok (.value ((l.lookup "payload").getD .null)) := by
  rw [ofMembers_of_kind .value named,
    show Kind.value.member = "payload" from rfl]
  rcases l.lookup "payload" with _ | v <;> rfl

/-- The members of a response are read as the same before and after. -/
theorem ofMembers_eq (named : l.lookup "kind" = some (.string kind.name))
    (r : kind.format.Revision l l') : ofMembers l = ofMembers l' := by
  have same : l.lookup "kind" = l'.lookup "kind" :=
    r.lookup_eq List.mem_cons_self (by cases kind <;> simp [Kind.format])
  have member : kind.member ∈ kind.format.names := List.mem_cons_of_mem _ List.mem_cons_self
  by_cases value : kind = .value
  · subst value
    have payload : (l.lookup "payload").getD .null = (l'.lookup "payload").getD .null :=
      r.getD_eq member (by simp [Kind.format])
    rw [ofMembers_of_value named, ofMembers_of_value (same ▸ named), payload]
  · rw [ofMembers_of_kind kind named, ofMembers_of_kind kind (same ▸ named),
      r.lookup_eq member (by simp [Kind.format, value])]

/-- A response is read as the same before and after a change. -/
theorem Revises.ofJson_iff {body body' : Json} (revises : Revises body body')
    (response : Response) : ofJson body = .ok response ↔ ofJson body' = .ok response := by
  cases revises with
  | envelope named revision => rw [ofJson, ofJson, ofMembers_eq named revision]
  | @payload kind format before after p p' named carries revision =>
    have other (v : Json) : (before ++ ("payload", v) :: after).lookup "kind"
        = (before.lookup "kind").or (after.lookup "kind") := by
      rw [List.lookup_append, List.lookup_cons]
      rfl
    have named' : (before ++ ("payload", .object p') :: after).lookup "kind"
        = some (.string kind.name) := by
      rw [other] at named ⊢
      exact named
    have member : kind.member = "payload" := by cases kind <;> first | rfl | cases carries
    rw [ofJson, ofJson, ofMembers_of_kind kind named, ofMembers_of_kind kind named', member,
      List.lookup_append, List.lookup_append, List.lookup_cons_self, List.lookup_cons_self]
    -- an earlier payload would be the one that counts
    rcases before.lookup "payload" with _ | v
    · exact readKind_iff carries revision
    · exact Iff.rfl

end Response

namespace Reply

open Response (Format Kind Revises)

/-! ## Decoding -/

section revised

variable {codec : Codec} {operation : String} {body body' : Json}

/-- A response is read as the same before and after any number of changes. -/
theorem ofJson_iff (revised : Relation.EqvGen Revises body body') (response : Response) :
    Response.ofJson body = .ok response ↔ Response.ofJson body' = .ok response := by
  induction revised with
  | rel _ _ revises => exact revises.ofJson_iff response
  | refl => exact Iff.rfl
  | symm _ _ _ ih => exact ih.symm
  | trans _ _ _ _ _ ih ih' => exact ih.trans ih'

/-- A response that was understood still is, and says the same. -/
theorem decode_of_revised (revised : Relation.EqvGen Revises body body')
    {result : Except Error Reply} (clear : ∀ reason, result ≠ .error (.protocol operation reason))
    (decoded : decode codec operation body = result) : decode codec operation body' = result := by
  rw [decode] at decoded
  split at decoded
  · next response read =>
    rw [decode, (ofJson_iff revised response).mp read]
    exact decoded
  · next fault _ => exact absurd decoded.symm (clear fault.message)

end revised

/-- The JSON form of a text that may be missing. -/
def nullable : Option String → Json
  | some s => .string s
  | none => .null

/-- The members of a part of a result set, each of its type, and what they say. -/
structure CursorFields (p : List (String × Json)) (id : Option String) (batch : List Json)
    (origin : Option String) : Prop where
  /-- No name stands twice. -/
  names : (p.map (·.1)).Nodup
  /-- The token is a text, `null` or missing. -/
  id : (p.lookup "cursor_id").getD .null = nullable id
  /-- The batch is an array or missing. -/
  batch : (p.lookup "batch").getD (.array []) = .array batch
  /-- The namespace is a text, `null` or missing. -/
  origin : (p.lookup "namespace").getD .null = nullable origin

/-- A text that may be missing is read back. -/
theorem optionalText_nullable (t : Option String) : Response.optionalText (nullable t) = .ok t := by
  cases t <;> rfl

section cursor

variable {codec : Codec} {operation : String} {members p : List (String × Json)}
  {id origin : Option String} {batch : List Json}

/-- Fields of the right types are those of a part of a result set. -/
theorem CursorFields.readCursor (fields : CursorFields p id batch origin) :
    Response.readCursor (.object p) = .ok (.cursor id batch origin) := by
  have checked : Json.checkKnown Format.cursor.names Response.checkCursor p = .ok () := by
    rw [Json.checkKnown_ok_iff]
    rintro ⟨name, v⟩ among known
    have value (d : Json) : (p.lookup name).getD d = v := by
      rw [lookup_of_mem fields.names among, Option.getD_some]
    rcases List.mem_cons.mp known with rfl | known
    · obtain rfl := (value .null).symm.trans fields.id
      rw [Response.checkCursor, if_neg (show "cursor_id" ≠ "batch" by decide),
        optionalText_nullable]
      rfl
    rcases List.mem_cons.mp known with rfl | known
    · obtain rfl := (value (.array [])).symm.trans fields.batch
      rfl
    · obtain rfl := List.mem_singleton.mp known
      obtain rfl := (value .null).symm.trans fields.origin
      rw [Response.checkCursor, if_neg (show "namespace" ≠ "batch" by decide),
        optionalText_nullable]
      rfl
  rw [Response.readCursor_object, checked]
  show Response.cursorOf p = _
  rw [Response.cursorOf, fields.id, fields.batch, fields.origin, optionalText_nullable,
    optionalText_nullable]
  rfl

/-- Documents are decoded one by one, up to the first that does not decode. -/
theorem documents_eq (vs : List Json) : documents codec vs = vs.mapM codec.decodeDocument := by
  induction vs with
  | nil => rfl
  | cons v vs ih =>
    rw [documents, mapM_cons_eq, ih]
    rcases codec.decodeDocument v with e | d
    · rfl
    · rcases vs.mapM codec.decodeDocument with e | ds <;> rfl

/-- A part of a result set is decoded document by document. -/
theorem decode_cursor (kind : members.lookup "kind" = some (.string "cursor"))
    (payload : members.lookup "payload" = some (.object p))
    (fields : CursorFields p id batch origin) :
    decode codec operation (.object members)
      = match batch.mapM codec.decodeDocument with
        | .ok ds => .ok (.cursor ⟨id, ds, origin⟩)
        | .error fault => .error (.protocol operation fault.message) := by
  have read : Response.ofJson (.object members) = .ok (.cursor id batch origin) := by
    rw [Response.ofJson, Response.ofMembers_of_kind .cursor kind,
      show Kind.cursor.member = "payload" from rfl, payload]
    exact fields.readCursor
  rw [decode, read]
  dsimp only
  rw [ofResponse, documents_eq]
  rfl

end cursor

/-- A part of a result set is decoded as a whole or not at all: into one document for each element
of its batch, in their order, or into a protocol error.  A reply, and a rejection with its reason,
is understood in the same way of every response that arises by changes which the formats leave
open. -/
theorem decodes_whole_and_tolerant :
    (∀ (codec : Codec) (operation : String) (members p : List (String × Json))
      (id origin : Option String) (batch : List Json),
      members.lookup "kind" = some (.string "cursor") →
      members.lookup "payload" = some (.object p) → CursorFields p id batch origin →
      (∀ reply, decode codec operation (.object members) = .ok reply
          ↔ ∃ ds, List.Forall₂ (fun v d => codec.decodeDocument v = .ok d) batch ds
            ∧ reply = .cursor ⟨id, ds, origin⟩)
        ∧ ((∃ reply, decode codec operation (.object members) = .ok reply)
          ↔ ∀ v ∈ batch, ∃ d, codec.decodeDocument v = .ok d)
        ∧ ∀ err, decode codec operation (.object members) = .error err
          ↔ ∃ fault, FirstFails codec.decodeDocument batch fault
            ∧ err = .protocol operation fault.message)
      ∧ ∀ (codec : Codec) (operation : String) (body body' : Json),
        Relation.EqvGen Revises body body' →
        (∀ reply, decode codec operation body = .ok reply
            ↔ decode codec operation body' = .ok reply)
          ∧ ∀ reason, decode codec operation body = .error (.operation operation reason)
            ↔ decode codec operation body' = .error (.operation operation reason) := by
  constructor
  · intro codec operation members p id origin batch kind payload fields
    rw [decode_cursor kind payload fields]
    refine ⟨fun reply => ?_, ?_, fun err => ?_⟩
    · simp only [← mapM_eq_ok]
      rcases batch.mapM codec.decodeDocument with e | ds <;> simp [eq_comm]
    · rw [forall_exists_ok_iff]
      simp only [← mapM_eq_error]
      rcases batch.mapM codec.decodeDocument with e | ds <;> simp
    · simp only [← mapM_eq_error]
      rcases batch.mapM codec.decodeDocument with e | ds <;> simp [eq_comm]
  · intro codec operation body body' revised
    have kept {result : Except Error Reply}
        (clear : ∀ reason, result ≠ .error (.protocol operation reason)) :
        decode codec operation body = result ↔ decode codec operation body' = result :=
      ⟨decode_of_revised revised clear, decode_of_revised (.symm _ _ revised) clear⟩
    exact ⟨fun reply => kept (by simp), fun reason => kept (by simp)⟩

/-- A batch of one document, told with its token as `null` and without it, and with the payload
first. -/
theorem decodes_whole_and_tolerant_of_one :
    Relation.EqvGen Revises
        (.object [("kind", .string "cursor"),
          ("payload", .object [("batch", .array [.object []]), ("cursor_id", .null)])])
        (.object [("payload", .object [("batch", .array [.object []])]),
          ("kind", .string "cursor")])
      ∧ decode .relaxed "find" (.object [("payload", .object [("batch", .array [.object []])]),
          ("kind", .string "cursor")]) = .ok (.cursor ⟨none, [[]], none⟩) := by
  have fields : CursorFields [("batch", .array [.object []]), ("cursor_id", .null)] none
      [.object []] none := ⟨by decide, rfl, rfl, rfl⟩
  have omitted : Format.cursor.Revision [("batch", .array [.object []])]
      [("batch", .array [.object []]), ("cursor_id", .null)] :=
    .supplied List.mem_cons_self (by decide)
  have turned : Kind.cursor.format.Revision
      [("kind", .string "cursor"), ("payload", .object [("batch", .array [.object []])])]
      [("payload", .object [("batch", .array [.object []])]), ("kind", .string "cursor")] :=
    .permuted (by decide) (.swap ..)
  have revised := Relation.EqvGen.trans _ _ _
    (.symm _ _ (.rel _ _
      (@Revises.payload .cursor _ [("kind", .string "cursor")] [] _ _ rfl rfl omitted)))
    (.rel _ _ (@Revises.envelope .cursor _ _ rfl turned))
  have decoded := (decodes_whole_and_tolerant.1 .relaxed "find"
    [("kind", .string "cursor"),
      ("payload", .object [("batch", .array [.object []]), ("cursor_id", .null)])]
    _ _ _ _ rfl rfl fields).1 (.cursor ⟨none, [[]], none⟩)
  exact ⟨revised, ((decodes_whole_and_tolerant.2 .relaxed "find" _ _ revised).1 _).mp
    (decoded.mpr ⟨[[]], .cons rfl .nil, rfl⟩)⟩

end Reply

end RemoteDriver
