import RemoteDriver.Proofs.Signature.Grammar
import RemoteDriver.Signature.Printer

/-!
# Signatures as text and back

Reading gives parameter lists that are well formed (`WellFormed`): in four groups, of which the
second and the fourth hold one parameter at most, with distinct identifiers as names and defaults
that a piece between commas can hold.  A well-formed list is read back from its text
(`ofText_text`), so nothing that was read is lost by writing it; a star alone is left out or put
in as it is needed.

Both directions go by the arrangement of the pieces (`Arranged`): grammatical pieces are arranged
so, and the parameters of arranged pieces are those of their groups (`Arranged.params_eq`).
-/

namespace RemoteDriver.Signature

open Text (IsTrimmed Pads isBlank)
open Piece (front back)

/-- A parameter list that a signature can have. -/
structure WellFormed (params : List Param) : Prop where
  /-- Positional parameters come first, then at most one that collects positional arguments, then
  those that are passed by name only, then at most one that collects named arguments. -/
  grouped : ∃ (positional : List Param) (variadic : Option Param) (named : List Param)
      (collector : Option Param),
    params = positional ++ variadic.toList ++ named ++ collector.toList
      ∧ (∀ p ∈ positional, p.kind = .positional)
      ∧ (∀ p ∈ variadic, p.kind = .variadicPositional)
      ∧ (∀ p ∈ named, p.kind = .keywordOnly)
      ∧ ∀ p ∈ collector, p.kind = .variadicKeyword
  /-- No positional parameter without a default comes after one that has a default. -/
  ordered : params.Pairwise fun p q => p.kind = .positional → q.kind = .positional →
    p.default.isSome = true → q.default.isSome = true
  /-- No name stands twice. -/
  distinct : (params.map (·.name)).Nodup
  /-- Names are identifiers. -/
  identifiers : ∀ p ∈ params, isIdentifier p.name.toList = true
  /-- Parameters that collect arguments have no default. -/
  bare : ∀ p ∈ params, p.kind.isNamed = false → p.default = none
  /-- Defaults hold no comma and have no blanks at their ends. -/
  defaults : ∀ p ∈ params, ∀ default ∈ p.default,
    ',' ∉ default.toList ∧ IsTrimmed default.toList

/-! ## Arranged pieces -/

/-- Whether a piece stands for one argument. -/
def Piece.isPlain (p : Piece) : Bool := p.isOptional || p.isRequired

/-- Pieces in groups: parameters for one argument, at most one star with more such parameters
behind it, and at most one parameter that collects named arguments. -/
structure Arranged (first : List Piece) (star : Option Piece) (second : List Piece)
    (last : Option Piece) : Prop where
  /-- The first group stands for one argument each. -/
  first_plain : ∀ p ∈ first, p.isPlain = true
  /-- The second group is a star, alone or before a name. -/
  star_star : ∀ p ∈ star, p.isStar = true
  /-- The third group stands for one argument each. -/
  second_plain : ∀ p ∈ second, p.isPlain = true
  /-- The last group collects named arguments. -/
  last_collector : ∀ p ∈ last, p.isCollector = true
  /-- Nothing but the star begins the third group. -/
  second_starred : star = none → second = []

/-- The pieces of groups in their order. -/
def arranged (first : List Piece) (star : Option Piece) (second : List Piece)
    (last : Option Piece) : List Piece :=
  first ++ star.toList ++ second ++ last.toList

section arranged

variable {ps first second : List Piece} {star last : Option Piece} {p : Piece}

/-- A parameter for one argument is no star. -/
theorem isStar_of_isPlain (plain : p.isPlain = true) : p.isStar = false := by
  cases p <;> first | rfl | cases plain

/-- A parameter for one argument collects none. -/
theorem isCollector_of_isPlain (plain : p.isPlain = true) : p.isCollector = false := by
  cases p <;> first | rfl | cases plain

/-- What collects named arguments is no star. -/
theorem isStar_of_isCollector (collector : p.isCollector = true) : p.isStar = false := by
  cases p <;> first | rfl | cases collector

/-- What is no star and collects nothing stands for one argument. -/
theorem isPlain_of_neither (unstarred : p.isStar = false) (single : p.isCollector = false) :
    p.isPlain = true := by
  cases p with
  | plain name default => cases default <;> rfl
  | star => cases unstarred
  | variadic => cases unstarred
  | collector => cases single

/-- The pieces before the first star of arranged pieces. -/
theorem Arranged.front_eq (h : Arranged first star second last) :
    front (arranged first star second last)
      = if star = none then first ++ last.toList else first := by
  have skip : ∀ p ∈ first, (!p.isStar) = true := fun p member => by
    rw [isStar_of_isPlain (h.first_plain p member)]
    rfl
  cases star with
  | none =>
    rw [arranged, h.second_starred rfl, if_pos rfl, front, List.takeWhile_eq_self_iff.mpr]
    · simp
    · intro p member
      simp only [Option.toList_none, List.append_nil, List.mem_append, Option.mem_toList] at member
      rcases member with member | member
      · exact skip p member
      · rw [isStar_of_isCollector (h.last_collector p member)]
        rfl
  | some s =>
    rw [arranged, if_neg (by simp), front, List.append_assoc, List.append_assoc,
      List.takeWhile_append_of_pos skip]
    simp [h.star_star s rfl]

/-- The pieces from the first star on of arranged pieces. -/
theorem Arranged.back_eq (h : Arranged first star second last) :
    back (arranged first star second last)
      = if star = none then [] else star.toList ++ second ++ last.toList := by
  have whole : front (arranged first star second last) ++ back (arranged first star second last)
      = arranged first star second last := List.takeWhile_append_dropWhile
  rw [h.front_eq] at whole
  refine (List.append_right_inj (if star = none then first ++ last.toList else first)).mp ?_
  rw [whole]
  split
  · next none => simp [arranged, none, h.second_starred none]
  · simp [arranged]

/-- The parameters of arranged pieces are those of the groups. -/
theorem Arranged.params_eq (h : Arranged first star second last) :
    Piece.params (arranged first star second last)
      = first.filterMap (·.param? .positional) ++ star.toList.filterMap (·.param? .keywordOnly)
        ++ second.filterMap (·.param? .keywordOnly)
        ++ last.toList.filterMap (·.param? .keywordOnly) := by
  have collects : last.toList.filterMap (·.param? .positional)
      = last.toList.filterMap (·.param? .keywordOnly) := by
    refine List.filterMap_congr fun p member => ?_
    have collector := h.last_collector p (Option.mem_toList.mp member)
    cases p <;> first | rfl | cases collector
  rw [Piece.params, h.front_eq, h.back_eq]
  cases star with
  | none => simp [h.second_starred rfl, collects]
  | some s =>
    rw [if_neg (by simp), if_neg (by simp), List.filterMap_append, List.filterMap_append,
      ← List.append_assoc, ← List.append_assoc]

/-- Arranged pieces with distinct names, in which no default of the first group comes before a
parameter of it without one, are grammatical. -/
theorem Arranged.grammatical (h : Arranged first star second last)
    (distinct : ((arranged first star second last).filterMap (·.name?)).Nodup)
    (ordered : first.Pairwise fun p q => p.isOptional = true → q.isRequired = false) :
    Grammatical (arranged first star second last) := by
  have none_plain {ps : List Piece} (plain : ∀ p ∈ ps, p.isPlain = true) :
      ps.countP (·.isStar) = 0 :=
    List.countP_eq_zero.mpr fun p member => by simp [isStar_of_isPlain (plain p member)]
  refine ⟨?_, ?_, distinct, ?_⟩
  · have atMost : ∀ o : Option Piece, o.toList.countP (·.isStar) ≤ 1 := fun o =>
      List.countP_le_length.trans (by cases o <;> simp)
    have none_last : last.toList.countP (·.isStar) = 0 :=
      List.countP_eq_zero.mpr fun p member => by
        simp [isStar_of_isCollector (h.last_collector p (Option.mem_toList.mp member))]
    rw [arranged, List.countP_append, List.countP_append, List.countP_append,
      none_plain h.first_plain, none_plain h.second_plain, none_last]
    simpa using atMost star
  · have early : ∀ p ∈ first ++ star.toList ++ second, p.isCollector = false := by
      intro p member
      rw [List.mem_append, List.mem_append, Option.mem_toList] at member
      rcases member with (member | member) | member
      · exact isCollector_of_isPlain (h.first_plain p member)
      · have star := h.star_star p member
        cases p <;> first | rfl | cases star
      · exact isCollector_of_isPlain (h.second_plain p member)
    cases last with
    | none =>
      rw [arranged, Option.toList_none, List.append_nil]
      exact fun p member => early p ((List.dropLast_sublist _).subset member)
    | some c =>
      rw [arranged, Option.toList_some, List.dropLast_concat]
      exact early
  · rw [h.front_eq]
    split
    · refine List.pairwise_append.mpr ⟨ordered, ?_, ?_⟩
      · cases last <;> simp
      · intro p _ q member _
        have collector := h.last_collector q (Option.mem_toList.mp member)
        cases q <;> first | rfl | cases collector
    · exact ordered

/-- Pieces without a star of which only the last one may collect named arguments. -/
theorem exists_collector (unstarred : ∀ p ∈ ps, p.isStar = false)
    (single : ∀ p ∈ ps.dropLast, p.isCollector = false) :
    ∃ first last, ps = first ++ Option.toList last ∧ (∀ p ∈ first, p.isPlain = true)
      ∧ ∀ p ∈ last, p.isCollector = true := by
  rcases List.eq_nil_or_concat' ps with rfl | ⟨init, p, rfl⟩
  · exact ⟨[], none, rfl, by simp, by simp⟩
  · rw [List.dropLast_concat] at single
    have plain : ∀ q ∈ init, q.isPlain = true := fun q member =>
      isPlain_of_neither (unstarred q (List.mem_append_left _ member)) (single q member)
    cases collects : p.isCollector with
    | true =>
      exact ⟨init, some p, by simp, plain, fun q last => Option.some.inj last ▸ collects⟩
    | false =>
      refine ⟨init ++ [p], none, by simp, ?_, by simp⟩
      intro q member
      rcases List.mem_append.mp member with member | last
      · exact plain q member
      · rw [List.mem_singleton.mp last]
        exact isPlain_of_neither (unstarred p (by simp)) collects

/-- Grammatical pieces are arranged. -/
theorem Grammatical.exists_arranged (h : Grammatical ps) :
    ∃ first star second last, ps = arranged first star second last
      ∧ Arranged first star second last := by
  have whole : front ps ++ back ps = ps := List.takeWhile_append_dropWhile
  have unstarred : ∀ p ∈ front ps, p.isStar = false := fun p member => by
    simpa using List.mem_takeWhile_imp member
  have single := h.collector_last
  rcases behind : back ps with _ | ⟨s, rest⟩
  · rw [behind, List.append_nil] at whole
    rw [whole] at unstarred
    obtain ⟨first, last, rfl, plain, collects⟩ := exists_collector unstarred single
    exact ⟨first, none, [], last, by simp [arranged],
      ⟨plain, by simp, by simp, collects, fun _ => rfl⟩⟩
  · rw [behind] at whole
    have star : s.isStar = true := by
      have stops := List.head?_dropWhile_not (fun p : Piece => !p.isStar) ps
      rw [show ps.dropWhile (fun p => !p.isStar) = s :: rest from behind] at stops
      simpa using stops
    have one := h.one_star
    rw [← whole, List.countP_append, List.countP_cons, if_pos star] at one
    have none : rest.countP (·.isStar) = 0 := by omega
    rw [← whole, List.dropLast_append_of_ne_nil (List.cons_ne_nil s rest)] at single
    have plain : ∀ p ∈ front ps, p.isPlain = true := fun p member =>
      isPlain_of_neither (unstarred p member) (single p (List.mem_append_left _ member))
    have unstarred' : ∀ p ∈ rest, p.isStar = false := fun p member =>
      Bool.eq_false_iff.mpr (List.countP_eq_zero.mp none p member)
    have single' : ∀ p ∈ rest.dropLast, p.isCollector = false := fun p member => by
      refine single p (List.mem_append_right _ ?_)
      rw [List.dropLast_cons_of_ne_nil (List.ne_nil_of_mem (List.dropLast_subset _ member))]
      exact List.mem_cons_of_mem _ member
    obtain ⟨second, last, rfl, plain', collects⟩ := exists_collector unstarred' single'
    refine ⟨front ps, some s, second, last, ?_, plain, fun p same => ?_, plain', collects,
      by simp⟩
    · rw [arranged, List.append_assoc, List.append_assoc]
      exact whole.symm
    · exact Option.some.inj same ▸ star

end arranged

/-! ## What was read is well formed -/

section read

variable {ps : List Piece} {p : Piece} {q : Param} {single : Kind} {text : List Char}

/-- What a parameter list can hold of one parameter. -/
structure Param.Sound (p : Param) : Prop where
  /-- The name is an identifier. -/
  identifier : isIdentifier p.name.toList = true
  /-- A parameter that collects arguments has no default. -/
  bare : p.kind.isNamed = false → p.default = none
  /-- The default holds no comma and has no blanks at its ends. -/
  written : ∀ default ∈ p.default, ',' ∉ default.toList ∧ IsTrimmed default.toList

/-- What is spelled between two commas is a sound parameter, if it is one. -/
theorem Spells.sound (spells : Spells text p) (none : ',' ∉ text) (collects : single.isNamed = true)
    (given : p.param? single = some q) : q.Sound := by
  cases spells with
  | star => cases given
  | variadic identifier _ =>
    cases given
    exact ⟨by rwa [String.toList_ofList], fun _ => rfl, fun _ no => (nomatch no)⟩
  | collector identifier _ =>
    cases given
    exact ⟨by rwa [String.toList_ofList], fun _ => rfl, fun _ no => (nomatch no)⟩
  | required identifier _ =>
    cases given
    exact ⟨by rwa [String.toList_ofList], fun h => (nomatch collects.symm.trans h),
      fun _ no => (nomatch no)⟩
  | optional default identifier _ =>
    cases given
    refine ⟨by rwa [String.toList_ofList], fun h => (nomatch collects.symm.trans h), ?_⟩
    rintro _ same
    rw [← Option.some.inj same, String.toList_ofList]
    refine ⟨fun member => none ?_, Text.isTrimmed_trim default⟩
    exact List.mem_append_right _ (List.mem_cons_of_mem _ (Text.mem_of_mem_trim member))

/-- A parameter of pieces is that of one of them, and passed by position only if that stands before
the first star. -/
theorem exists_of_mem_params (member : q ∈ Piece.params ps) :
    ∃ p ∈ ps, ∃ single : Kind, single.isNamed = true ∧ p.param? single = some q := by
  rcases List.mem_append.mp member with member | member
  · obtain ⟨p, listed, given⟩ := List.mem_filterMap.mp member
    exact ⟨p, (List.takeWhile_sublist _).subset listed, .positional, rfl, given⟩
  · obtain ⟨p, listed, given⟩ := List.mem_filterMap.mp member
    exact ⟨p, (List.dropWhile_sublist _).subset listed, .keywordOnly, rfl, given⟩

/-- The pieces that a text spells have sound parameters. -/
theorem Spelled.sound (spelled : Spelled text ps) (member : q ∈ Piece.params ps) : q.Sound := by
  obtain ⟨p, listed, single, named, given⟩ := exists_of_mem_params member
  obtain ⟨i, inside, rfl⟩ := List.mem_iff_getElem.mp listed
  have inside' := List.Forall₂.length_eq spelled ▸ inside
  have spells := List.Forall₂.get spelled inside' inside
  refine spells.sound (fun comma => ?_) named given
  rw [List.get_eq_getElem, List.getElem_map] at comma
  exact Text.not_mem_of_mem_pieces (List.getElem_mem _) (Text.mem_of_mem_trim comma)

/-- The parameters of arranged pieces stand in their groups. -/
theorem Arranged.grouped {first second : List Piece} {star last : Option Piece}
    (h : Arranged first star second last) :
    ∃ (positional : List Param) (variadic : Option Param) (named : List Param)
        (collector : Option Param),
      Piece.params (arranged first star second last)
          = positional ++ variadic.toList ++ named ++ collector.toList
        ∧ (∀ p ∈ positional, p.kind = .positional)
        ∧ (∀ p ∈ variadic, p.kind = .variadicPositional)
        ∧ (∀ p ∈ named, p.kind = .keywordOnly)
        ∧ ∀ p ∈ collector, p.kind = .variadicKeyword := by
  have passed {ps : List Piece} (single : Kind) (plain : ∀ p ∈ ps, p.isPlain = true) :
      ∀ q ∈ ps.filterMap (·.param? single), q.kind = single := by
    intro q member
    obtain ⟨p, listed, given⟩ := List.mem_filterMap.mp member
    have plain := plain p listed
    cases p with
    | plain => cases given; rfl
    | star => cases plain
    | variadic => cases plain
    | collector => cases plain
  have alone (o : Option Piece) :
      o.toList.filterMap (·.param? .keywordOnly) = (o.bind (·.param? .keywordOnly)).toList := by
    cases o with
    | none => rfl
    | some p => cases h : p.param? .keywordOnly <;> simp [h]
  refine ⟨_, star.bind (·.param? .keywordOnly), _, last.bind (·.param? .keywordOnly), ?_,
    passed .positional h.first_plain, ?_, passed .keywordOnly h.second_plain, ?_⟩
  · rw [h.params_eq, alone, alone]
  · intro q given
    obtain ⟨p, there, given⟩ := Option.bind_eq_some_iff.mp given
    have star := h.star_star p there
    cases p with
    | variadic => cases given; rfl
    | star => cases given
    | plain => cases star
    | collector => cases star
  · intro q given
    obtain ⟨p, there, given⟩ := Option.bind_eq_some_iff.mp given
    have collects := h.last_collector p there
    cases p with
    | collector => cases given; rfl
    | star => cases collects
    | plain => cases collects
    | variadic => cases collects

/-- A piece has a default where its parameter has one. -/
theorem isOptional_of_param (given : p.param? single = some q) :
    p.isOptional = q.default.isSome := by
  cases p <;> cases given <;> rfl

/-- A piece that is passed by position lacks a default where its parameter does. -/
theorem isRequired_of_param (given : p.param? single = some q) (positional : q.kind = .positional) :
    p.isRequired = q.default.isNone := by
  cases p with
  | plain => cases given; rfl
  | star => cases given
  | variadic => cases given; cases positional
  | collector => cases given; cases positional

/-- The parameters of grammatical pieces that a text spells are well formed. -/
theorem Grammatical.wellFormed (h : Grammatical ps) (spelled : Spelled text ps) :
    WellFormed (Piece.params ps) := by
  have sound := fun q => Spelled.sound (q := q) spelled
  refine ⟨?_, ?_, ?_, fun p member => (sound p member).identifier,
    fun p member => (sound p member).bare, fun p member => (sound p member).written⟩
  · obtain ⟨first, star, second, last, rfl, groups⟩ := h.exists_arranged
    exact groups.grouped
  · have late : ∀ q ∈ (back ps).filterMap (·.param? .keywordOnly), q.kind ≠ .positional := by
      intro q member positional
      obtain ⟨p, _, given⟩ := List.mem_filterMap.mp member
      cases p <;> cases given <;> cases positional
    refine List.pairwise_append.mpr ⟨?_, ?_, fun _ _ q member _ positional => ?_⟩
    · refine h.ordered.filterMap _ fun a b ordered p given q given' _ second optional => ?_
      have required := ordered ((isOptional_of_param given).trans optional)
      rwa [isRequired_of_param given' second, Option.isNone_eq_false_iff] at required
    · exact List.pairwise_of_forall_mem_list fun p member _ _ positional =>
        absurd positional (late p member)
    · exact absurd positional (late q member)
  · rw [map_name_params]
    exact h.distinct

end read

/-! ## What is well formed is read back -/

/-- The piece that a parameter is written as. -/
def Param.piece (p : Param) : Piece := .ofKind p.kind p.name p.default

/-- What is written of a well-formed parameter list is without a comma, has no blanks at its ends,
and spells a piece. -/
structure Writes (text : List Char) (p : Piece) : Prop where
  /-- The piece is spelled. -/
  spells : Spells text p
  /-- No comma breaks it up. -/
  whole : ',' ∉ text
  /-- Trimming takes nothing off. -/
  trimmed : IsTrimmed text

section written

variable {params l r : List Param} {p : Param} {single : Kind} {starred : Bool}

/-- A single character that is no blank has no blanks at its ends. -/
theorem isTrimmed_singleton {c : Char} (visible : isBlank c = false) : IsTrimmed [c] :=
  ⟨fun _ same => Option.some.inj same ▸ visible, fun _ same => Option.some.inj same ▸ visible⟩

/-- A text without more blanks around it is itself. -/
theorem pads_self (text : List Char) : Pads text text :=
  ⟨[], [], rfl, rfl, (List.append_nil text).symm⟩

/-- A name has no comma in it. -/
theorem comma_not_mem {name : List Char} (identifier : isIdentifier name = true) : ',' ∉ name :=
  not_mem_of_pads identifier (pads_self _) (by decide) (by decide)

/-- A name is written as it is. -/
theorem writes_name {name : String} (identifier : isIdentifier name.toList = true) :
    Writes name.toList (.plain name none) := by
  have spells := Spells.required identifier (pads_self name.toList)
  rw [String.ofList_toList] at spells
  exact ⟨spells, comma_not_mem identifier, isTrimmed_of_isIdentifier identifier⟩

/-- A default is written behind an equals sign. -/
theorem writes_default {name default : String} (identifier : isIdentifier name.toList = true)
    (whole : ',' ∉ default.toList) (trimmed : IsTrimmed default.toList) :
    Writes (name.toList ++ '=' :: default.toList) (.plain name (some default)) := by
  have spells := Spells.optional default.toList identifier (pads_self name.toList)
  rw [String.ofList_toList, trimmed.trim_eq, String.ofList_toList] at spells
  refine ⟨spells, ?_, ?_⟩
  · rw [List.mem_append, not_or]
    exact ⟨comma_not_mem identifier, List.not_mem_cons_of_ne_of_not_mem (by decide) whole⟩
  · exact (isTrimmed_of_isIdentifier identifier).append
      ((isTrimmed_singleton (by decide)).append trimmed)

/-- A sound parameter is written as its piece. -/
theorem Param.Sound.writes (sound : p.Sound) : Writes p.text p.piece := by
  obtain ⟨name, kind, default⟩ := p
  obtain ⟨identifier, bare, written⟩ := sound
  have comma := comma_not_mem identifier
  have trimmed := isTrimmed_of_isIdentifier identifier
  have star : IsTrimmed ['*'] := isTrimmed_singleton (by decide)
  cases kind with
  | positional =>
    cases default with
    | none => exact writes_name identifier
    | some d => exact writes_default identifier (written d rfl).1 (written d rfl).2
  | keywordOnly =>
    cases default with
    | none => exact writes_name identifier
    | some d => exact writes_default identifier (written d rfl).1 (written d rfl).2
  | variadicPositional =>
    have spells := Spells.variadic identifier (pads_self name.toList)
    rw [String.ofList_toList] at spells
    exact ⟨spells, List.not_mem_cons_of_ne_of_not_mem (by decide) comma, star.append trimmed⟩
  | variadicKeyword =>
    have spells := Spells.collector identifier (pads_self name.toList)
    rw [String.ofList_toList] at spells
    refine ⟨spells, ?_, star.append (star.append trimmed)⟩
    exact List.not_mem_cons_of_ne_of_not_mem (by decide)
      (List.not_mem_cons_of_ne_of_not_mem (by decide) comma)

/-- A star alone is written as itself. -/
theorem writes_star : Writes ['*'] .star :=
  ⟨.star, by decide, isTrimmed_singleton (by decide)⟩

/-- Each parameter of a well-formed list is sound. -/
theorem WellFormed.sound (h : WellFormed params) (member : p ∈ params) : p.Sound :=
  ⟨h.identifiers p member, h.bare p member, h.defaults p member⟩

/-- Sound parameters are written as their pieces. -/
theorem writes_map (sound : ∀ p ∈ l, p.Sound) :
    List.Forall₂ Writes (l.map (·.text)) (l.map (·.piece)) := by
  rw [List.forall₂_map_left_iff, List.forall₂_map_right_iff, List.forall₂_same]
  exact fun p member => (sound p member).writes

/-- The piece that a parameter is written as is read as it. -/
theorem param?_piece (sound : p.Sound) (passed : p.kind.isNamed = true → p.kind = single) :
    p.piece.param? single = some p := by
  obtain ⟨name, kind, default⟩ := p
  cases kind with
  | positional => rw [← passed rfl]; rfl
  | keywordOnly => rw [← passed rfl]; rfl
  | variadicPositional => rw [show default = none from sound.bare rfl]; rfl
  | variadicKeyword => rw [show default = none from sound.bare rfl]; rfl

/-- The parameters that pieces stand for are those that the pieces were made of. -/
theorem filterMap_piece (sound : ∀ p ∈ l, p.Sound)
    (passed : ∀ p ∈ l, p.kind.isNamed = true → p.kind = single) :
    (l.map (·.piece)).filterMap (·.param? single) = l := by
  rw [List.filterMap_map]
  refine (List.filterMap_congr fun p member => ?_).trans List.filterMap_some
  exact param?_piece (sound p member) (passed p member)

/-! ### The star that is put in -/

/-- No star is put in before parameters that are not passed by name only. -/
theorem writtenPieces_append (passed : ∀ p ∈ l, p.kind ≠ .keywordOnly) :
    writtenPieces starred (l ++ r) = l.map (·.text) ++ writtenPieces starred r := by
  induction l with
  | nil => rfl
  | cons p l ih =>
    have single := passed p List.mem_cons_self
    rw [List.cons_append, writtenPieces, if_neg (fun h => single h.1),
      ih fun q member => passed q (List.mem_cons_of_mem _ member)]
    rfl

/-- No star is put in where one has been written. -/
theorem writtenPieces_starred (l : List Param) : writtenPieces true l = l.map (·.text) := by
  induction l with
  | nil => rfl
  | cons p l ih => rw [writtenPieces, if_neg (by simp), ih, List.map_cons]

section groups

variable {positional named : List Param} {variadic collector : Option Param}
  (h : WellFormed (positional ++ variadic.toList ++ named ++ collector.toList))
  (hp : ∀ p ∈ positional, p.kind = .positional) (hn : ∀ p ∈ named, p.kind = .keywordOnly)
  (hc : ∀ p ∈ collector, p.kind = .variadicKeyword)

include hp hn hc in
/-- The pieces of the groups, with a star between them where one is needed, are arranged. -/
theorem arranged_of_groups (star : Option Piece) (stars : ∀ p ∈ star, p.isStar = true)
    (needed : star = none → named = []) :
    Arranged (positional.map (·.piece)) star (named.map (·.piece)) (collector.map (·.piece)) := by
  have plain {p : Param} (single : p.kind = .positional ∨ p.kind = .keywordOnly) :
      p.piece.isPlain = true := by
    obtain ⟨name, kind, default⟩ := p
    rcases single with rfl | rfl <;> cases default <;> rfl
  refine ⟨?_, stars, ?_, ?_, fun none => by rw [needed none]; rfl⟩
  · intro q member
    obtain ⟨p, listed, rfl⟩ := List.mem_map.mp member
    exact plain (.inl (hp p listed))
  · intro q member
    obtain ⟨p, listed, rfl⟩ := List.mem_map.mp member
    exact plain (.inr (hn p listed))
  · intro q given
    obtain ⟨p, there, rfl⟩ := Option.map_eq_some_iff.mp given
    have kind := hc p there
    obtain ⟨name, _, default⟩ := p
    cases kind
    rfl

include h hp hn hc in
/-- If the star has the parameter of its group, the pieces have those of all groups and are
grammatical. -/
theorem grammatical_of_groups (star : Option Piece) (stars : ∀ p ∈ star, p.isStar = true)
    (needed : star = none → named = [])
    (same : star.toList.filterMap (·.param? .keywordOnly) = variadic.toList) :
    Grammatical (arranged (positional.map (·.piece)) star (named.map (·.piece))
        (collector.map (·.piece)))
      ∧ Piece.params (arranged (positional.map (·.piece)) star (named.map (·.piece))
          (collector.map (·.piece)))
        = positional ++ variadic.toList ++ named ++ collector.toList := by
  have groups := arranged_of_groups hp hn hc star stars needed
  have sound := fun p => h.sound (p := p)
  have params := groups.params_eq
  rw [filterMap_piece (fun p member => sound p (by simp [member])) fun p member _ => hp p member,
    filterMap_piece (fun p member => sound p (by simp [member])) fun p member _ => hn p member,
    same, Option.toList_map, filterMap_piece (fun p member => sound p
      (List.mem_append_right _ member)) fun p member single => by
        rw [hc p (Option.mem_toList.mp member)] at single
        cases single] at params
  refine ⟨groups.grammatical ?_ ?_, params⟩
  · rw [← map_name_params, params]
    exact h.distinct
  · have ordered := h.ordered
    rw [List.append_assoc, List.append_assoc, List.pairwise_append] at ordered
    refine List.pairwise_map.mpr
      (ordered.1.imp_of_mem fun {p q} first second ordered optional => ?_)
    have given {p : Param} (member : p ∈ positional) :
        p.piece.param? .positional = some p :=
      param?_piece (sound p (by simp [member])) fun _ => hp p member
    rw [isOptional_of_param (given first)] at optional
    rw [isRequired_of_param (given second) (hp q second), Option.isNone_eq_false_iff]
    exact ordered (hp p first) (hp q second) optional

/-- The piece that stands between the positional parameters and those that are passed by name
only. -/
def starOf : Option Param → List Param → Option Piece
  | some v, _ => some v.piece
  | none, [] => none
  | none, _ :: _ => some .star

/-- What this piece is written as. -/
def starText : Option Param → List Param → Option (List Char)
  | some v, _ => some v.text
  | none, [] => none
  | none, _ :: _ => some ['*']

/-- What stands between the positional parameters and the named ones is a star. -/
theorem isStar_of_starOf (hv : ∀ p ∈ variadic, p.kind = .variadicPositional) :
    ∀ p ∈ starOf variadic named, p.isStar = true := by
  match variadic, named with
  | none, [] => exact nofun
  | none, _ :: _ => exact fun _ same => Option.some.inj same ▸ rfl
  | some v, _ =>
    intro p same
    obtain rfl := Option.some.inj same
    have kind := hv v rfl
    obtain ⟨name, _, default⟩ := v
    cases kind
    rfl

/-- No star is needed only where no parameter is passed by name only. -/
theorem starOf_eq_none : starOf variadic named = none → named = [] := by
  match variadic, named with
  | none, [] => exact fun _ => rfl
  | none, _ :: _ => exact nofun
  | some _, _ => exact nofun

/-- The star has the parameter that collects positional arguments, and no other. -/
theorem param?_starOf (hv : ∀ p ∈ variadic, p.kind = .variadicPositional)
    (sound : ∀ p ∈ variadic, p.Sound) :
    (starOf variadic named).toList.filterMap (·.param? .keywordOnly) = variadic.toList := by
  match variadic, named with
  | none, [] => rfl
  | none, _ :: _ => rfl
  | some v, _ =>
    have given : v.piece.param? .keywordOnly = some v :=
      param?_piece (sound v rfl) fun single => by
        rw [hv v rfl] at single
        cases single
    simp [starOf, given]

/-- The star is written as itself. -/
theorem writes_starOf (sound : ∀ p ∈ variadic, p.Sound) :
    List.Forall₂ Writes (starText variadic named).toList (starOf variadic named).toList := by
  match variadic, named with
  | none, [] => exact .nil
  | none, _ :: _ => exact .cons writes_star .nil
  | some v, _ => exact .cons (sound v rfl).writes .nil

include hp hn hc in
/-- The groups are written one after the other, with the star between them. -/
theorem writtenPieces_groups (hv : ∀ p ∈ variadic, p.kind = .variadicPositional) :
    writtenPieces
        (has ⟨positional ++ variadic.toList ++ named ++ collector.toList⟩ .variadicPositional)
        (positional ++ variadic.toList ++ named ++ collector.toList)
      = positional.map (·.text) ++ (starText variadic named).toList ++ named.map (·.text)
        ++ collector.toList.map (·.text) := by
  have front : ∀ p ∈ positional, p.kind ≠ .keywordOnly := fun p member => by
    rw [hp p member]
    decide
  have back : ∀ p ∈ collector.toList, p.kind ≠ .keywordOnly := fun p member => by
    rw [hc p (Option.mem_toList.mp member)]
    decide
  cases variadic with
  | some v =>
    have starred : has ⟨positional ++ [v] ++ named ++ collector.toList⟩ .variadicPositional
        = true := by
      rw [has, List.any_eq_true]
      exact ⟨v, by simp, decide_eq_true (hv v rfl)⟩
    rw [show (some v).toList = [v] from rfl, starred, writtenPieces_starred]
    simp [starText]
  | none =>
    have unstarred : has ⟨positional ++ Option.toList none ++ named ++ collector.toList⟩
        .variadicPositional = false := by
      rw [has, List.any_eq_false]
      intro p member
      simp only [Option.toList_none, List.append_nil, List.mem_append, Option.mem_toList] at member
      rcases member with (member | member) | member
      · simp [hp p member]
      · simp [hn p member]
      · simp [hc p member]
    rw [unstarred, Option.toList_none, List.append_nil, List.append_assoc,
      writtenPieces_append front]
    cases named with
    | nil =>
      rw [List.nil_append, ← List.append_nil collector.toList, writtenPieces_append back]
      simp [starText, writtenPieces]
    | cons n named =>
      -- the first parameter that is passed by name only needs a star before it
      rw [List.cons_append, writtenPieces, if_pos ⟨hn n List.mem_cons_self, rfl⟩,
        writtenPieces_starred]
      simp [starText]

end groups

/-- A well-formed list is written as grammatical pieces that have its parameters. -/
theorem WellFormed.exists_pieces (h : WellFormed params) :
    ∃ ps, List.Forall₂ Writes (writtenPieces (has ⟨params⟩ .variadicPositional) params) ps
      ∧ Grammatical ps ∧ Piece.params ps = params := by
  obtain ⟨positional, variadic, named, collector, rfl, hp, hv, hn, hc⟩ := h.grouped
  have writes {l : List Param}
      (listed : ∀ p ∈ l, p ∈ positional ++ variadic.toList ++ named ++ collector.toList) :=
    writes_map fun p member => h.sound (listed p member)
  have collects : ∀ v ∈ variadic, v.Sound := fun v there =>
    h.sound (by simp [Option.mem_def.mp there])
  refine ⟨_, ?_, grammatical_of_groups h hp hn hc (starOf variadic named) (isStar_of_starOf hv)
    starOf_eq_none (param?_starOf hv collects)⟩
  rw [writtenPieces_groups hp hn hc hv, arranged, Option.toList_map]
  exact List.rel_append (List.rel_append (List.rel_append (writes (by simp +contextual))
    (writes_starOf collects)) (writes (by simp +contextual))) (writes (by simp +contextual))

/-! ### The text -/

/-- Pieces with commas and blanks between them are split into themselves. -/
theorem map_trim_pieces_listed {text : List Char} {texts : List (List Char)}
    (whole : ∀ t ∈ text :: texts, ',' ∉ t) :
    (Text.pieces ',' (listed (text :: texts))).map Text.trim = (text :: texts).map Text.trim := by
  induction texts generalizing text with
  | nil => rw [listed, Text.pieces_of_not_mem (whole text List.mem_cons_self)]
  | cons next texts ih =>
    have rest := ih fun t member => whole t (List.mem_cons_of_mem _ member)
    have blank : (Text.pieces ',' ([' '] ++ listed (next :: texts))).map Text.trim
        = (Text.pieces ',' (listed (next :: texts))).map Text.trim :=
      Text.map_trim_pieces_append_left (by decide) (by decide)
    rw [listed, Text.pieces_cut (whole text List.mem_cons_self), List.map_cons, List.map_cons,
      ← rest, ← blank]
    rfl

/-- A well-formed parameter list is read back from its text. -/
theorem ofText_text {s : Signature} (h : WellFormed s.params) : ofText s.text = .ok s := by
  obtain ⟨params⟩ := s
  obtain ⟨ps, writes, grammatical, same⟩ := h.exists_pieces
  rw [ofText_eq_ok_iff, text, String.toList_ofList]
  rcases written : writtenPieces (has ⟨params⟩ .variadicPositional) params with _ | ⟨t, ts⟩
  · rw [written] at writes
    obtain rfl := List.forall₂_nil_left_iff.mp writes
    obtain rfl : [] = params := same
    exact .inl ⟨rfl, rfl⟩
  · rw [written] at writes
    refine .inr ⟨ps, ?_, grammatical, by rw [same]⟩
    have each : ∀ u ∈ t :: ts, ',' ∉ u ∧ IsTrimmed u := by
      intro u member
      obtain ⟨i, inside, rfl⟩ := List.mem_iff_getElem.mp member
      have writes := writes.get inside (writes.length_eq ▸ inside)
      exact ⟨writes.whole, writes.trimmed⟩
    rw [Spelled, map_trim_pieces_listed fun u member => (each u member).1,
      List.map_congr_left (g := id) fun u member => (each u member).2.trim_eq, List.map_id]
    exact writes.imp fun _ _ w => w.spells

end written

/-- What is read is well formed, and what is well formed is read back from its text; so what was
read is read again from what is written of it. -/
theorem reading_inverts_writing :
    (∀ text s, ofText text = .ok s → WellFormed s.params)
      ∧ (∀ s : Signature, WellFormed s.params → ofText s.text = .ok s)
      ∧ ∀ text s, ofText text = .ok s → ofText s.text = .ok s := by
  have formed {text : String} {s : Signature} (reads : ofText text = .ok s) :
      WellFormed s.params := by
    rcases ofText_eq_ok_iff.mp reads with ⟨_, rfl⟩ | ⟨ps, spelled, grammatical, rfl⟩
    · exact ⟨⟨[], none, [], none, by simp⟩, .nil, List.nodup_nil, by simp, by simp, by simp⟩
    · exact grammatical.wellFormed spelled
  exact ⟨fun _ _ => formed, fun _ => ofText_text, fun _ _ reads => ofText_text (formed reads)⟩

/-- The star before the parameter that is passed by name only is put back. -/
theorem reading_inverts_writing_of_star :
    ∃ s, ofText "b=,*,k = x=* " = .ok s ∧ s.text = "b=, *, k=x=*" ∧ WellFormed s.params
      ∧ ofText s.text = .ok s := by
  have read : ofText "b=,*,k = x=* "
      = .ok ⟨[⟨"b", .positional, some ""⟩, ⟨"k", .keywordOnly, some "x=*"⟩]⟩ := by rfl
  exact ⟨_, read, rfl, reading_inverts_writing.1 _ _ read, reading_inverts_writing.2.2 _ _ read⟩

end RemoteDriver.Signature
