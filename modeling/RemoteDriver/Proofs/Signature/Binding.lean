import Mathlib.Data.List.Nodup
import RemoteDriver.Signature.Binding
import RemoteDriver.Signature.Parser

/-!
# Which calls fit a signature

What it means that the arguments of a call fit is said without the algorithm that checks it: every
argument goes to a parameter (`Goes`), and there is a way of assigning all of them in which no
parameter that stands for one argument gets two, and every such parameter without a default gets
one (`Assigns`).  Where there is no such way, one fault is due: of the positions that have nowhere
to go, of the first name that offends, or of the first parameter that gets nothing (`Due`).

The main statement, `bind_follows_assignment`, says that binding succeeds exactly where there is an
assignment, and otherwise tells the fault that is due.  It needs that no name stands twice, which
holds of every signature that was read (`distinct_of_ofText`).
-/

namespace RemoteDriver.Signature

open Bson (Document Value)

/-! ## Assignments -/

/-- An argument of a call: the one at a position, counted from zero, or the one of a name. -/
inductive Argument
  /-- The argument at a position. -/
  | position (i : Nat)
  /-- The argument of a name. -/
  | named (name : String)

/-- A call has an argument. -/
def Argument.IsGiven (args : List Value) (kwargs : Document) : Argument → Prop
  | position i => i < args.length
  | named name => name ∈ kwargs.map (·.1)

/-- An argument goes to a parameter. -/
inductive Goes (s : Signature) : Argument → Param → Prop
  /-- A position goes to the positional parameter that stands there. -/
  | position (i : Nat) (p : Param) (there : s.positional[i]? = some p) : Goes s (.position i) p
  /-- A position beyond all positional parameters goes to the one that collects them. -/
  | surplus (i : Nat) (p : Param) (beyond : s.positional.length ≤ i) (member : p ∈ s.params)
      (collects : p.kind = .variadicPositional) : Goes s (.position i) p
  /-- A name goes to the parameter of this name that stands for one argument. -/
  | named (p : Param) (member : p ∈ s.params) (single : p.kind.isNamed = true) :
      Goes s (.named p.name) p
  /-- A name that no such parameter has goes to the parameter that collects names. -/
  | collected (name : String) (p : Param)
      (other : ∀ q ∈ s.params, q.kind.isNamed = true → q.name ≠ name) (member : p ∈ s.params)
      (collects : p.kind = .variadicKeyword) : Goes s (.named name) p

/-- A way of assigning all arguments of a call to parameters. -/
structure Assigns (s : Signature) (args : List Value) (kwargs : Document)
    (f : Argument → Param) : Prop where
  /-- Every argument goes where it belongs. -/
  goes : ∀ a, a.IsGiven args kwargs → s.Goes a (f a)
  /-- No parameter that stands for one argument gets two. -/
  once : ∀ a b, a.IsGiven args kwargs → b.IsGiven args kwargs → f a = f b →
    (f a).kind.isNamed = true → a = b
  /-- Every such parameter without a default gets one. -/
  supplied : ∀ p ∈ s.params, p.kind.isNamed = true → p.default = none →
    ∃ a, a.IsGiven args kwargs ∧ f a = p

/-! ## Faults -/

section faults

variable (s : Signature) (args : List Value) (kwargs : Document)

/-- A name is given for a parameter that a position goes to. -/
def Repeats (name : String) : Prop :=
  ∃ p i, i < args.length ∧ s.Goes (.position i) p ∧ s.Goes (.named name) p

/-- A name that is given has nowhere to go, or goes where a position goes already. -/
def Offends (name : String) : Prop := (∀ p, ¬ s.Goes (.named name) p) ∨ s.Repeats args name

/-- Of the names that are given, in their order, this is the first one that offends. -/
def FirstOffends (name : String) : Prop :=
  ∃ before after, kwargs.map (·.1) = before ++ name :: after ∧ s.Offends args name
    ∧ ∀ earlier ∈ before, ¬ s.Offends args earlier

/-- A parameter that has to get an argument gets none. -/
def Lacks (p : Param) : Prop :=
  p.kind.isNamed = true ∧ p.default = none ∧ ∀ a, a.IsGiven args kwargs → ¬ s.Goes a p

/-- Of the parameters, in the order of their declaration, this is the first one that gets none. -/
def FirstLacks (p : Param) : Prop :=
  ∃ before after, s.params = before ++ p :: after ∧ s.Lacks args kwargs p
    ∧ ∀ earlier ∈ before, ¬ s.Lacks args kwargs earlier

/-- The fault that is due for a call that does not fit. -/
inductive Due : BindFault → Prop
  /-- A position has nowhere to go. -/
  | surplus (i : Nat) (given : i < args.length) (nowhere : ∀ p, ¬ s.Goes (.position i) p) :
      Due (.surplus args.length)
  /-- All positions go somewhere, and the first name that offends goes where one of them goes. -/
  | repeated (name : String) (room : ∀ i < args.length, ∃ p, s.Goes (.position i) p)
      (first : s.FirstOffends args kwargs name) (twice : s.Repeats args name) :
      Due (.repeated name)
  /-- All positions go somewhere, and the first name that offends has nowhere to go. -/
  | unexpected (name : String) (room : ∀ i < args.length, ∃ p, s.Goes (.position i) p)
      (first : s.FirstOffends args kwargs name) (nowhere : ∀ p, ¬ s.Goes (.named name) p) :
      Due (.unexpected name)
  /-- All positions go somewhere, no name offends, and a parameter gets nothing. -/
  | missing (p : Param) (room : ∀ i < args.length, ∃ p, s.Goes (.position i) p)
      (fine : ∀ name ∈ kwargs.map (·.1), ¬ s.Offends args name)
      (first : s.FirstLacks args kwargs p) : Due (.missing p.name)

end faults

/-! ## Names of parameters -/

/-- No two parameters have one name. -/
def Distinct (s : Signature) : Prop := (s.params.map (·.name)).Nodup

/-- A parameter that is taken in has a new name. -/
theorem Reading.distinct_push {r r' : Reading} {kind : Kind} {piece rest : List Char}
    (pushed : r.push kind piece rest = .ok r') (distinct : (r.params.map (·.name)).Nodup) :
    (r'.params.map (·.name)).Nodup := by
  unfold push at pushed
  dsimp only at pushed
  split at pushed
  · cases pushed
  · split at pushed
    · cases pushed
    · next new =>
      split at pushed
      · cases pushed
      · cases pushed
        rw [List.map_append, List.map_singleton, List.nodup_append]
        refine ⟨distinct, List.nodup_singleton _, ?_⟩
        rintro old member _ named rfl
        obtain ⟨p, listed, same⟩ := List.mem_map.mp member
        apply new
        rw [List.any_eq_true]
        exact ⟨p, listed, decide_eq_true (same.trans (List.mem_singleton.mp named))⟩

/-- A piece is taken in only if its name is new. -/
theorem Reading.distinct_step {r r' : Reading} {piece : List Char}
    (stepped : r.step piece = .ok r') (distinct : (r.params.map (·.name)).Nodup) :
    (r'.params.map (·.name)).Nodup := by
  unfold step at stepped
  dsimp only at stepped
  split at stepped
  · cases stepped
  · split at stepped
    · cases stepped
    · split at stepped
      · split at stepped
        · cases stepped
        · split at stepped
          · cases stepped
            exact distinct
          · exact distinct_push stepped distinct
      · exact distinct_push stepped distinct

/-- Pieces that are taken in have distinct names. -/
theorem Reading.distinct_steps {pieces : List (List Char)} {r r' : Reading}
    (read : r.steps pieces = .ok r') (distinct : (r.params.map (·.name)).Nodup) :
    (r'.params.map (·.name)).Nodup := by
  induction pieces generalizing r with
  | nil =>
    cases read
    exact distinct
  | cons piece rest ih =>
    unfold steps at read
    split at read
    · next stepped => exact ih read (distinct_step stepped distinct)
    · cases read

/-- In a signature that was read no name stands twice. -/
theorem distinct_of_ofText {text : String} {s : Signature} (reads : ofText text = .ok s) :
    s.Distinct := by
  unfold ofText at reads
  dsimp only at reads
  split at reads
  · cases reads
    exact List.nodup_nil
  · rcases read : Reading.start.steps (Text.pieces ',' (Text.trim text.toList)) with fault | r
    · rw [read] at reads
      cases reads
    · rw [read] at reads
      cases reads
      exact Reading.distinct_steps read List.nodup_nil

section distinct

variable {s : Signature} {p q : Param} {i j : Nat}

/-- A name stands for one parameter. -/
theorem Distinct.eq_of_name (distinct : s.Distinct) (first : p ∈ s.params) (second : q ∈ s.params)
    (same : p.name = q.name) : p = q :=
  List.inj_on_of_nodup_map distinct first second same

/-- Where a parameter stands among the positional ones. -/
theorem mem_of_positional (there : s.positional[i]? = some p) :
    p ∈ s.params ∧ p.kind = .positional := by
  obtain ⟨member, kind⟩ := List.mem_filter.mp (List.mem_of_getElem? there)
  exact ⟨member, of_decide_eq_true kind⟩

/-- A parameter stands at one position. -/
theorem Distinct.eq_of_positional (distinct : s.Distinct) (first : s.positional[i]? = some p)
    (second : s.positional[j]? = some p) : i = j := by
  have nodup : s.positional.Nodup := (List.Nodup.of_map _ distinct).filter _
  have inside : i < s.positional.length := (List.getElem?_eq_some_iff.mp first).1
  exact (List.getElem?_inj inside nodup).mp (first.trans second.symm)

/-- A signature has a collector of a kind where one of its parameters is of that kind. -/
theorem has_iff {kind : Kind} : s.has kind = true ↔ ∃ p ∈ s.params, p.kind = kind := by
  simp [has]

end distinct

/-! ## Where arguments go -/

section goes

variable {s : Signature} {p : Param} {i count : Nat} {name : String}

/-- A position goes to a parameter that stands for one argument only if that is positional and
stands there. -/
theorem Goes.positional (goes : s.Goes (.position i) p) (single : p.kind.isNamed = true) :
    s.positional[i]? = some p := by
  cases goes with
  | position _ _ there => exact there
  | surplus _ _ _ _ collects =>
    rw [collects] at single
    cases single

/-- A name goes to a parameter that stands for one argument only if that has the name. -/
theorem Goes.called (goes : s.Goes (.named name) p) (single : p.kind.isNamed = true) :
    p ∈ s.params ∧ p.name = name := by
  cases goes with
  | named _ member _ => exact ⟨member, rfl⟩
  | collected _ _ _ _ collects =>
    rw [collects] at single
    cases single

/-- A position and a name go to one parameter only if it stands for one argument. -/
theorem Goes.single (first : s.Goes (.position i) p) (second : s.Goes (.named name) p) :
    p.kind.isNamed = true := by
  cases second with
  | named _ _ single => exact single
  | collected _ _ _ _ collects =>
    cases first with
    | position _ _ there =>
      cases (mem_of_positional there).2.symm.trans collects
    | surplus _ _ _ _ collects' => cases collects'.symm.trans collects

/-- An argument that goes to a parameter that stands for one argument goes nowhere else. -/
theorem Goes.unique {a : Argument} {q : Param} (distinct : s.Distinct) (goes : s.Goes a p)
    (single : p.kind.isNamed = true) (other : s.Goes a q) : q = p := by
  cases a with
  | position i =>
    have there := goes.positional single
    cases other with
    | position _ _ there' => exact Option.some.inj (there'.symm.trans there)
    | surplus _ _ beyond _ _ =>
      exact absurd (List.getElem?_eq_some_iff.mp there).1 (Nat.not_lt.mpr beyond)
  | named name =>
    obtain ⟨member, called⟩ := goes.called single
    cases other with
    | named _ member' _ => exact distinct.eq_of_name member' member called.symm
    | collected _ _ nobody _ _ => exact absurd called (nobody p member single)

/-- A position has somewhere to go if there are enough positional parameters or a collector. -/
theorem exists_goes_position_iff :
    (∃ p, s.Goes (.position i) p) ↔ i < s.positional.length ∨ s.has .variadicPositional = true := by
  constructor
  · rintro ⟨p, goes⟩
    cases goes with
    | position _ _ there => exact .inl (List.getElem?_eq_some_iff.mp there).1
    | surplus _ _ _ member collects => exact .inr (has_iff.mpr ⟨p, member, collects⟩)
  · intro h
    by_cases inside : i < s.positional.length
    · exact ⟨_, .position i _ (List.getElem?_eq_getElem inside)⟩
    · obtain ⟨p, member, collects⟩ := has_iff.mp (h.resolve_left inside)
      exact ⟨p, .surplus i p (Nat.le_of_not_lt inside) member collects⟩

/-- Whether a parameter that stands for one argument has a name. -/
theorem any_named_iff : (s.params.any fun p => p.name = name && p.kind.isNamed) = true
    ↔ ∃ p ∈ s.params, p.kind.isNamed = true ∧ p.name = name := by
  simp [and_comm]

/-- A name has somewhere to go if a parameter is called so or there is a collector. -/
theorem exists_goes_named_iff : (∃ p, s.Goes (.named name) p)
    ↔ (∃ p ∈ s.params, p.kind.isNamed = true ∧ p.name = name)
      ∨ s.has .variadicKeyword = true := by
  constructor
  · rintro ⟨p, goes⟩
    cases goes with
    | named _ member single => exact .inl ⟨p, member, single, rfl⟩
    | collected _ _ _ member collects => exact .inr (has_iff.mpr ⟨p, member, collects⟩)
  · intro h
    by_cases taken : ∃ p ∈ s.params, p.kind.isNamed = true ∧ p.name = name
    · obtain ⟨p, member, single, rfl⟩ := taken
      exact ⟨p, .named p member single⟩
    · obtain ⟨p, member, collects⟩ := has_iff.mp (h.resolve_left taken)
      refine ⟨p, .collected name p ?_ member collects⟩
      exact fun q listed single same => taken ⟨q, listed, single, same⟩

/-- What the first positions fill. -/
theorem fills_iff : s.fills count name = true
    ↔ ∃ i p, i < count ∧ s.positional[i]? = some p ∧ p.name = name := by
  unfold fills
  rw [List.any_eq_true]
  constructor
  · rintro ⟨p, member, same⟩
    obtain ⟨i, there⟩ := List.mem_iff_getElem?.mp member
    rw [List.getElem?_take] at there
    split at there
    · next inside => exact ⟨i, p, inside, there, of_decide_eq_true same⟩
    · cases there
  · rintro ⟨i, p, inside, there, same⟩
    refine ⟨p, List.mem_iff_getElem?.mpr ⟨i, ?_⟩, decide_eq_true same⟩
    rw [List.getElem?_take, if_pos inside, there]

end goes

/-! ## What binding checks -/

section checks

variable {s : Signature} {args : List Value} {kwargs : Document} {name : String} {p : Param}

/-- A position has nowhere to go where there are too many and no parameter collects them. -/
theorem exists_nowhere_iff : (∃ i < args.length, ∀ p, ¬ s.Goes (.position i) p)
    ↔ s.positional.length < args.length ∧ (!s.has .variadicPositional) = true := by
  rw [Bool.not_eq_true', ← Bool.not_eq_true]
  constructor
  · rintro ⟨i, given, nowhere⟩
    have h := mt exists_goes_position_iff.mpr (not_exists.mpr nowhere)
    rw [not_or] at h
    exact ⟨by omega, h.2⟩
  · rintro ⟨more, none⟩
    refine ⟨s.positional.length, more, not_exists.mp fun h => ?_⟩
    rcases exists_goes_position_iff.mp h with inside | collects
    · exact absurd inside (Nat.lt_irrefl _)
    · exact none collects

/-- A name goes where a position goes if the parameter of this name has been filled. -/
theorem repeats_iff : s.Repeats args name ↔ s.fills args.length name = true := by
  rw [fills_iff]
  constructor
  · rintro ⟨p, i, given, first, second⟩
    have single := first.single second
    exact ⟨i, p, given, first.positional single, (second.called single).2⟩
  · rintro ⟨i, p, given, there, rfl⟩
    obtain ⟨member, positional⟩ := mem_of_positional there
    have single : p.kind.isNamed = true := by rw [positional]; rfl
    exact ⟨p, i, given, .position i p there, .named p member single⟩

/-- What is found wrong with a name. -/
theorem nameFault?_cases (s : Signature) (args : List Value) (name : String) :
    (s.nameFault? args.length name = none ∧ ¬ s.Offends args name)
      ∨ (s.nameFault? args.length name = some (.repeated name) ∧ s.Repeats args name)
      ∨ (s.nameFault? args.length name = some (.unexpected name)
        ∧ ∀ p, ¬ s.Goes (.named name) p) := by
  unfold nameFault? Offends
  by_cases taken : ∃ p ∈ s.params, p.kind.isNamed = true ∧ p.name = name
  · rw [if_pos (any_named_iff.mpr taken)]
    by_cases filled : s.fills args.length name = true
    · rw [if_pos filled]
      exact .inr (.inl ⟨rfl, repeats_iff.mpr filled⟩)
    · rw [if_neg filled]
      refine .inl ⟨rfl, ?_⟩
      rintro (nowhere | twice)
      · exact not_exists.mpr nowhere (exists_goes_named_iff.mpr (.inl taken))
      · exact filled (repeats_iff.mp twice)
  · rw [if_neg (mt any_named_iff.mp taken)]
    by_cases collects : s.has .variadicKeyword = true
    · rw [if_pos collects]
      refine .inl ⟨rfl, ?_⟩
      rintro (nowhere | ⟨p, i, _, first, second⟩)
      · exact not_exists.mpr nowhere (exists_goes_named_iff.mpr (.inr collects))
      · have single := first.single second
        exact taken ⟨p, (second.called single).1, single, (second.called single).2⟩
    · rw [if_neg collects]
      refine .inr (.inr ⟨rfl, not_exists.mp fun h => ?_⟩)
      rcases exists_goes_named_iff.mp h with h | h
      · exact taken h
      · exact collects h

/-- A name that is given is no fault where it does not offend. -/
theorem nameFault?_eq_none_iff :
    s.nameFault? args.length name = none ↔ ¬ s.Offends args name := by
  rcases s.nameFault?_cases args name
    with ⟨none, fine⟩ | ⟨some, twice⟩ | ⟨some, nowhere⟩
  · exact ⟨fun _ => fine, fun _ => none⟩
  · rw [some]
    exact ⟨by simp, fun fine => absurd (.inr twice) fine⟩
  · rw [some]
    exact ⟨by simp, fun fine => absurd (.inl nowhere) fine⟩

/-- What is found missing. -/
theorem Distinct.lacks_iff (distinct : s.Distinct) (member : p ∈ s.params) :
    s.Lacks args kwargs p ↔ (p.isRequired && !(kwargs.map (·.1)).contains p.name
      && !s.fills args.length p.name) = true := by
  unfold Lacks Param.isRequired
  rw [Bool.and_eq_true, Bool.and_eq_true, Bool.and_eq_true, Option.isNone_iff_eq_none, and_assoc,
    and_assoc, Bool.not_eq_true', Bool.not_eq_true', Bool.eq_false_iff, Bool.eq_false_iff]
  refine and_congr_right fun single => and_congr_right fun _ => ?_
  rw [Ne, List.contains_iff_mem]
  constructor
  · intro none
    refine ⟨fun given => none (.named p.name) given (.named p member single), fun filled => ?_⟩
    obtain ⟨i, q, inside, there, same⟩ := fills_iff.mp filled
    have same := distinct.eq_of_name (mem_of_positional there).1 member same
    exact none (.position i) inside (.position i p (same ▸ there))
  · rintro ⟨unnamed, unfilled⟩ (i | name) given goes
    · exact unfilled (fills_iff.mpr ⟨i, p, given, goes.positional single, rfl⟩)
    · exact unnamed ((goes.called single).2 ▸ given)

end checks

/-! ## Binding -/

section binding

variable {s : Signature} {args : List Value} {kwargs : Document} {fault : BindFault}

/-- All positions go somewhere where there are not too many. -/
theorem room_iff : (∀ i < args.length, ∃ p, s.Goes (.position i) p)
    ↔ ¬ (s.positional.length < args.length ∧ (!s.has .variadicPositional) = true) := by
  rw [← exists_nowhere_iff]
  push Not
  rfl

/-- The first name with a fault is the first one that offends. -/
theorem findSome?_iff :
    (kwargs.map (·.1)).findSome? (s.nameFault? args.length) = some fault
      ↔ ∃ name, s.FirstOffends args kwargs name
        ∧ s.nameFault? args.length name = some fault := by
  rw [List.findSome?_eq_some_iff]
  constructor
  · rintro ⟨before, name, after, split, found, fine⟩
    refine ⟨name, ⟨before, after, split, ?_, fun earlier member => ?_⟩, found⟩
    · apply Classical.byContradiction
      intro fine
      rw [nameFault?_eq_none_iff.mpr fine] at found
      cases found
    · exact nameFault?_eq_none_iff.mp (fine earlier member)
  · rintro ⟨name, ⟨before, after, split, _, fine⟩, found⟩
    refine ⟨before, name, after, split, found, fun earlier member => ?_⟩
    exact nameFault?_eq_none_iff.mpr (fine earlier member)

/-- No fault of a name is found where none offends. -/
theorem findSome?_eq_none_iff :
    (kwargs.map (·.1)).findSome? (s.nameFault? args.length) = none
      ↔ ∀ name ∈ kwargs.map (·.1), ¬ s.Offends args name := by
  rw [List.findSome?_eq_none_iff]
  exact forall₂_congr fun _ _ => nameFault?_eq_none_iff

/-- The first parameter that is missing is the first one that gets nothing. -/
theorem Distinct.missing?_iff (distinct : s.Distinct) {p : Param} :
    s.missing? args.length (kwargs.map (·.1)) = some p ↔ s.FirstLacks args kwargs p := by
  unfold missing? FirstLacks
  rw [List.find?_eq_some_iff_append]
  constructor
  · rintro ⟨lacks, before, after, split, fine⟩
    refine ⟨before, after, split, (distinct.lacks_iff (by simp [split])).mpr lacks, ?_⟩
    intro earlier member lacks
    have listed : earlier ∈ s.params := by simp [split, member]
    have found := fine earlier member
    rw [(distinct.lacks_iff listed).mp lacks] at found
    cases found
  · rintro ⟨before, after, split, lacks, fine⟩
    refine ⟨(distinct.lacks_iff (by simp [split])).mp lacks, before, after, split, ?_⟩
    intro earlier member
    have listed : earlier ∈ s.params := by simp [split, member]
    have unfound := mt (distinct.lacks_iff listed).mpr (fine earlier member)
    rw [Bool.not_eq_true']
    exact Bool.eq_false_iff.mpr unfound

/-- The fault that is due is the one that is found. -/
theorem Distinct.due_iff (distinct : s.Distinct) : s.Due args kwargs fault
    ↔ s.bindFault? args.length (kwargs.map (·.1)) = some fault := by
  unfold bindFault?
  constructor
  · intro due
    cases due with
    | surplus i given nowhere =>
      rw [if_pos (exists_nowhere_iff.mp ⟨i, given, nowhere⟩)]
    | repeated name room first twice =>
      have found : s.nameFault? args.length name = some (.repeated name) := by
        rcases s.nameFault?_cases args name
          with ⟨_, fine⟩ | ⟨found, _⟩ | ⟨_, nowhere⟩
        · exact absurd (.inr twice) fine
        · exact found
        · obtain ⟨p, _, _, _, goes⟩ := twice
          exact absurd goes (nowhere p)
      rw [if_neg (room_iff.mp room), findSome?_iff.mpr ⟨name, first, found⟩]
    | unexpected name room first nowhere =>
      have found : s.nameFault? args.length name = some (.unexpected name) := by
        rcases s.nameFault?_cases args name
          with ⟨_, fine⟩ | ⟨_, p, _, _, _, goes⟩ | ⟨found, _⟩
        · exact absurd (.inl nowhere) fine
        · exact absurd goes (nowhere p)
        · exact found
      rw [if_neg (room_iff.mp room), findSome?_iff.mpr ⟨name, first, found⟩]
    | missing p room fine first =>
      rw [if_neg (room_iff.mp room), findSome?_eq_none_iff.mpr fine]
      dsimp only
      rw [distinct.missing?_iff.mpr first, Option.map_some]
  -- the check stops at the first kind of fault, so none of the kinds before it is there
  · intro found
    by_cases full : s.positional.length < args.length ∧ (!s.has .variadicPositional) = true
    · rw [if_pos full] at found
      cases found
      obtain ⟨i, given, nowhere⟩ := exists_nowhere_iff.mpr full
      exact .surplus i given nowhere
    · rw [if_neg full] at found
      have room := room_iff.mpr full
      rcases named : (kwargs.map (·.1)).findSome? (s.nameFault? args.length) with _ | offence
      · rw [named] at found
        obtain ⟨p, missing, rfl⟩ := Option.map_eq_some_iff.mp found
        exact .missing p room (findSome?_eq_none_iff.mp named)
          (distinct.missing?_iff.mp missing)
      · rw [named] at found
        cases found
        obtain ⟨name, first, told⟩ := findSome?_iff.mp named
        rcases s.nameFault?_cases args name
          with ⟨none, _⟩ | ⟨some, twice⟩ | ⟨some, nowhere⟩
        · cases none.symm.trans told
        · cases some.symm.trans told
          exact .repeated name room first twice
        · cases some.symm.trans told
          exact .unexpected name room first nowhere

/-- Nothing is found wrong where every position goes somewhere, no name offends and every parameter
that has to get an argument gets one. -/
theorem Distinct.bindFault?_eq_none_iff (distinct : s.Distinct) :
    s.bindFault? args.length (kwargs.map (·.1)) = none
      ↔ (∀ i < args.length, ∃ p, s.Goes (.position i) p)
        ∧ (∀ name ∈ kwargs.map (·.1), ¬ s.Offends args name)
        ∧ ∀ p ∈ s.params, ¬ s.Lacks args kwargs p := by
  have supplied_iff : s.missing? args.length (kwargs.map (·.1)) = none
      ↔ ∀ p ∈ s.params, ¬ s.Lacks args kwargs p := by
    unfold missing?
    rw [List.find?_eq_none]
    exact forall₂_congr fun p member => not_congr (distinct.lacks_iff member).symm
  rw [room_iff, ← findSome?_eq_none_iff, ← supplied_iff]
  unfold bindFault?
  split
  · next full => exact ⟨fun h => (nomatch h), fun h => absurd full h.1⟩
  · next room =>
    split
    · next found => exact ⟨fun h => (nomatch h), fun h => (nomatch found.symm.trans h.2.1)⟩
    · next found =>
      rw [Option.map_eq_none_iff]
      exact ⟨fun none => ⟨room, found, none⟩, fun h => h.2.2⟩

/-- Where there is an assignment no fault is due. -/
theorem Assigns.not_due {f : Argument → Param} (distinct : s.Distinct)
    (assigns : s.Assigns args kwargs f) : ¬ s.Due args kwargs fault := by
  intro due
  cases due with
  | surplus i given nowhere => exact nowhere _ (assigns.goes (.position i) given)
  | repeated name room first twice =>
    obtain ⟨p, i, given, goes, goes'⟩ := twice
    obtain ⟨before, after, split, _⟩ := first
    have named : (Argument.named name).IsGiven args kwargs := by
      show name ∈ kwargs.map (·.1)
      rw [split]
      exact List.mem_append_cons_self
    have single := goes.single goes'
    have sent : f (.position i) = p := goes.unique distinct single (assigns.goes _ given)
    have sent' : f (.named name) = p := goes'.unique distinct single (assigns.goes _ named)
    cases assigns.once (.position i) (.named name) given named (sent.trans sent'.symm)
      (sent ▸ single)
  | unexpected name room first nowhere =>
    obtain ⟨before, after, split, _⟩ := first
    have named : (Argument.named name).IsGiven args kwargs := by
      show name ∈ kwargs.map (·.1)
      rw [split]
      exact List.mem_append_cons_self
    exact nowhere _ (assigns.goes _ named)
  | missing p room fine first =>
    obtain ⟨before, after, split, ⟨single, required, none⟩, _⟩ := first
    have member : p ∈ s.params := by
      rw [split]
      exact List.mem_append_cons_self
    obtain ⟨a, given, sent⟩ := assigns.supplied p member single required
    exact none a given (sent ▸ assigns.goes a given)

/-- Where every argument goes somewhere, no name offends and no parameter lacks its argument,
sending each argument somewhere it goes is an assignment. -/
theorem Distinct.exists_assigns (distinct : s.Distinct)
    (room : ∀ i < args.length, ∃ p, s.Goes (.position i) p)
    (fine : ∀ name ∈ kwargs.map (·.1), ¬ s.Offends args name)
    (supplied : ∀ p ∈ s.params, ¬ s.Lacks args kwargs p) : ∃ f, s.Assigns args kwargs f := by
  have somewhere : ∀ a : Argument, ∃ p, a.IsGiven args kwargs → s.Goes a p := by
    rintro (i | name)
    · by_cases given : i < args.length
      · exact (room i given).imp fun _ goes _ => goes
      · exact ⟨⟨"", .positional, none⟩, fun given' => absurd given' given⟩
    · by_cases given : name ∈ kwargs.map (·.1)
      · obtain ⟨p, goes⟩ := not_forall_not.mp (not_or.mp (fine name given)).1
        exact ⟨p, fun _ => goes⟩
      · exact ⟨⟨"", .positional, none⟩, fun given' => absurd given' given⟩
  choose f goes using somewhere
  refine ⟨f, goes, ?_, ?_⟩
  · rintro (i | name) (j | name') given given' same single
    · have first := (goes _ given).positional single
      have second := (goes _ given').positional (same ▸ single)
      rw [distinct.eq_of_positional first (same ▸ second)]
    · exact absurd (.inr ⟨_, i, given, goes _ given, same ▸ goes _ given'⟩) (fine name' given')
    · exact absurd (.inr ⟨_, j, given', goes _ given', same ▸ goes _ given⟩) (fine name given)
    · have first := (goes _ given).called single
      have second := (goes _ given').called (same ▸ single)
      rw [← first.2, ← second.2, same]
  · intro p member single required
    apply Classical.byContradiction
    intro nobody
    refine supplied p member ⟨single, required, fun a given sent => nobody ⟨a, given, ?_⟩⟩
    exact sent.unique distinct single (goes a given)

/-- Nothing is found wrong exactly where there is an assignment. -/
theorem Distinct.exists_assigns_iff (distinct : s.Distinct) :
    (∃ f, s.Assigns args kwargs f) ↔ s.bindFault? args.length (kwargs.map (·.1)) = none := by
  constructor
  · rintro ⟨f, assigns⟩
    rw [Option.eq_none_iff_forall_ne_some]
    exact fun fault found => assigns.not_due distinct (distinct.due_iff.mpr found)
  · intro found
    obtain ⟨room, fine, supplied⟩ := distinct.bindFault?_eq_none_iff.mp found
    exact distinct.exists_assigns room fine supplied

end binding

/-- Binding a call to a signature that was read succeeds exactly where the arguments can be
assigned.  Where they cannot, one fault is due, and binding fails with a usage error of the
operation that tells it. -/
theorem bind_follows_assignment {text : String} {s : Signature} (reads : ofText text = .ok s)
    (operation : String) (args : List Value) (kwargs : Document) :
    (s.bind operation args kwargs = .ok () ↔ ∃ f, s.Assigns args kwargs f)
      ∧ ((¬ ∃ f, s.Assigns args kwargs f) → ∃ fault, s.Due args kwargs fault)
      ∧ ∀ fault, s.Due args kwargs fault
        → s.bind operation args kwargs = .error (.usage operation (fault.message s)) := by
  have distinct := distinct_of_ofText reads
  rcases found : s.bindFault? args.length (kwargs.map (·.1)) with _ | fault
  · have accepted : s.bind operation args kwargs = .ok () := by
      unfold bind
      rw [found]
    have fits := distinct.exists_assigns_iff.mpr found
    refine ⟨⟨fun _ => fits, fun _ => accepted⟩, fun none => absurd fits none, fun fault due => ?_⟩
    cases found.symm.trans (distinct.due_iff.mp due)
  · have refused : s.bind operation args kwargs = .error (.usage operation (fault.message s)) := by
      unfold bind
      rw [found]
    have due := distinct.due_iff.mpr found
    refine ⟨⟨fun accepted => ?_, ?_⟩, fun _ => ⟨fault, due⟩, fun other due' => ?_⟩
    · cases refused.symm.trans accepted
    · rintro ⟨f, assigns⟩
      exact absurd due (assigns.not_due distinct)
    · cases found.symm.trans (distinct.due_iff.mp due')
      exact refused

/-- A signature with two positional parameters: a name beside them goes to the parameter that
collects names, even the name of this parameter, and the name of a filled one goes nowhere. -/
theorem bind_follows_assignment_of_two :
    let s : Signature := ⟨[⟨"a", .positional, none⟩, ⟨"b", .positional, some "None"⟩,
      ⟨"c", .keywordOnly, some "1"⟩, ⟨"rest", .variadicKeyword, none⟩]⟩
    ofText "a, b=None, *, c=1, **rest" = .ok s
      ∧ (∃ f, s.Assigns [.int32 1] [("rest", .int32 2), ("c", .int32 3)] f)
      ∧ (¬ ∃ f, s.Assigns [.int32 1] [("c", .int32 3), ("a", .int32 4)] f)
      ∧ ∃ fault, s.Due [.int32 1] [("c", .int32 3), ("a", .int32 4)] fault
        ∧ fault.message s = "got multiple values for argument `a`" := by
  intro s
  have reads : ofText "a, b=None, *, c=1, **rest" = .ok s := by decide +kernel
  obtain ⟨accepted, _⟩ :=
    bind_follows_assignment reads "find" [.int32 1] [("rest", .int32 2), ("c", .int32 3)]
  obtain ⟨refused, owed, told⟩ :=
    bind_follows_assignment reads "find" [.int32 1] [("c", .int32 3), ("a", .int32 4)]
  have fault : s.bind "find" [.int32 1] [("c", .int32 3), ("a", .int32 4)]
      = .error (.usage "find" "got multiple values for argument `a`") := by decide +kernel
  have unassigned : ¬ ∃ f, s.Assigns [.int32 1] [("c", .int32 3), ("a", .int32 4)] f := by
    rw [← refused, fault]
    exact fun h => (nomatch h)
  obtain ⟨due, owed⟩ := owed unassigned
  refine ⟨reads, accepted.mp (by decide +kernel), unassigned, due, owed, ?_⟩
  exact (Error.usage.inj (Except.error.inj ((told due owed).symm.trans fault))).2

end RemoteDriver.Signature
