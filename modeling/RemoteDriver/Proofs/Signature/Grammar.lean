import Mathlib.Data.List.Nodup
import RemoteDriver.Proofs.Text.Trimming
import RemoteDriver.Signature.Parser

/-!
# The grammar of signatures

Which texts are signatures is said without the loop that reads them: each piece between two commas
is spelled in one of five ways (`Spells`), and the pieces together keep four rules (`Grammatical`).
The parameters are those of the pieces in their order, a star alone being none; where no star
stands before a parameter it may be passed by position (`Piece.params`).

The reader takes in one piece after the other and keeps three marks beside the parameters.  What it
has read is determined by the pieces so far (`Reading.of`); a step takes in what is spelled
correctly and fits to the pieces before it, and nothing else (`Reading.step_of_iff`), and what
grows by pieces that fit is grammatical (`grammatical_snoc_iff`).  Put together along a text this
makes the main statement, `ofText_follows_grammar`.
-/

namespace RemoteDriver.Signature

open Text (IsTrimmed Pads isBlank)

/-! ## Pieces -/

/-- What stands between two commas. -/
inductive Piece
  /-- A star alone. -/
  | star
  /-- The parameter that collects surplus positional arguments. -/
  | variadic (name : String)
  /-- The parameter that collects surplus named arguments. -/
  | collector (name : String)
  /-- A parameter that stands for one argument. -/
  | plain (name : String) (default : Option String)
deriving DecidableEq

namespace Piece

/-- Whether a piece is a star, alone or before a name. -/
def isStar : Piece → Bool
  | star => true
  | variadic _ => true
  | _ => false

/-- Whether a piece is the parameter that collects named arguments. -/
def isCollector : Piece → Bool
  | collector _ => true
  | _ => false

/-- Whether a piece stands for one argument and has a default. -/
def isOptional : Piece → Bool
  | plain _ default => default.isSome
  | _ => false

/-- Whether a piece stands for one argument and has no default. -/
def isRequired : Piece → Bool
  | plain _ default => default.isNone
  | _ => false

/-- The name in a piece. -/
def name? : Piece → Option String
  | star => none
  | variadic name => some name
  | collector name => some name
  | plain name _ => some name

/-- The parameter of a piece; `single` is how one is passed that stands for one argument. -/
def param? (single : Kind) : Piece → Option Param
  | star => none
  | variadic name => some ⟨name, .variadicPositional, none⟩
  | collector name => some ⟨name, .variadicKeyword, none⟩
  | plain name default => some ⟨name, single, default⟩

/-- The pieces before the first star. -/
def front (ps : List Piece) : List Piece := ps.takeWhile (!·.isStar)

/-- The pieces from the first star on. -/
def back (ps : List Piece) : List Piece := ps.dropWhile (!·.isStar)

/-- The parameters of pieces: before the first star they are passed by position, after it by name
only. -/
def params (ps : List Piece) : List Param :=
  (front ps).filterMap (·.param? .positional) ++ (back ps).filterMap (·.param? .keywordOnly)

end Piece

open Piece (front back)

/-! ## The grammar -/

/-- A text without blanks at its ends spells a piece.  A name may have blanks around it, and a
default is what follows the equals sign, without the blanks at its ends. -/
inductive Spells : List Char → Piece → Prop
  /-- A star alone. -/
  | star : Spells ['*'] .star
  /-- A star and a name. -/
  | variadic {name text : List Char} (identifier : isIdentifier name = true)
      (pads : Pads name text) : Spells ('*' :: text) (.variadic (String.ofList name))
  /-- Two stars and a name. -/
  | collector {name text : List Char} (identifier : isIdentifier name = true)
      (pads : Pads name text) : Spells ('*' :: '*' :: text) (.collector (String.ofList name))
  /-- A name. -/
  | required {name text : List Char} (identifier : isIdentifier name = true)
      (pads : Pads name text) : Spells text (.plain (String.ofList name) none)
  /-- A name, an equals sign and a default. -/
  | optional {name text : List Char} (default : List Char) (identifier : isIdentifier name = true)
      (pads : Pads name text) :
      Spells (text ++ '=' :: default)
        (.plain (String.ofList name) (some (String.ofList (Text.trim default))))

/-- The rules that the pieces of a signature keep together. -/
structure Grammatical (ps : List Piece) : Prop where
  /-- There is at most one star, alone or before a name. -/
  one_star : ps.countP (·.isStar) ≤ 1
  /-- Nothing follows the parameter that collects named arguments. -/
  collector_last : ∀ p ∈ ps.dropLast, p.isCollector = false
  /-- No name stands twice. -/
  distinct : (ps.filterMap (·.name?)).Nodup
  /-- Before the first star nothing without a default comes after something with a default. -/
  ordered : (front ps).Pairwise fun p q => p.isOptional = true → q.isRequired = false

/-- The pieces of a text, without the blanks at their ends, spell the given ones. -/
def Spelled (text : List Char) (ps : List Piece) : Prop :=
  List.Forall₂ Spells ((Text.pieces ',' text).map Text.trim) ps

/-! ## One piece more -/

section snoc

variable {ps : List Piece} {p : Piece}

/-- A piece may follow others. -/
structure Fits (ps : List Piece) (p : Piece) : Prop where
  /-- The parameter that collects named arguments has not come yet. -/
  unclosed : ps.any (·.isCollector) = false
  /-- No star has come if the piece is one. -/
  first_star : p.isStar = true → ps.any (·.isStar) = false
  /-- The name is new. -/
  new : ∀ name ∈ p.name?, name ∉ ps.filterMap (·.name?)
  /-- Before the first star no default has come if the piece has none. -/
  ordered : p.isRequired = true → ps.any (·.isStar) = false →
    (front ps).any (·.isOptional) = false

/-- Without a star all pieces are before the first one. -/
theorem front_of_unstarred (unstarred : ps.any (·.isStar) = false) : front ps = ps := by
  rw [front, List.takeWhile_eq_self_iff]
  intro q member
  rw [List.any_eq_false] at unstarred
  simpa using unstarred q member

/-- A piece that comes after a star is not before the first one. -/
theorem front_snoc_of_starred (starred : ps.any (·.isStar) = true) :
    front (ps ++ [p]) = front ps := by
  obtain ⟨q, member, star⟩ := List.any_eq_true.mp starred
  rw [front, front, List.takeWhile_append, if_neg]
  intro whole
  have all := List.takeWhile_eq_self_iff.mp (List.takeWhile_prefix _ |>.eq_of_length whole)
  have plain := all q member
  rw [star] at plain
  cases plain

/-- A piece that comes after a star follows the pieces from the first one on. -/
theorem back_snoc_of_starred (starred : ps.any (·.isStar) = true) :
    back (ps ++ [p]) = back ps ++ [p] := by
  obtain ⟨q, member, star⟩ := List.any_eq_true.mp starred
  rw [back, back, List.dropWhile_append, if_neg]
  intro nothing
  have plain := List.dropWhile_eq_nil_iff.mp (List.isEmpty_iff.mp nothing) q member
  rw [star] at plain
  cases plain

/-- Where no star was, a piece is before the first one unless it is a star itself. -/
theorem front_snoc_of_unstarred (unstarred : ps.any (·.isStar) = false) :
    front (ps ++ [p]) = if p.isStar then ps else ps ++ [p] := by
  have whole := front_of_unstarred unstarred
  rw [front] at whole
  rw [front, List.takeWhile_append, whole, if_pos rfl]
  cases star : p.isStar <;> simp [star]

/-- Where no star was, the pieces from the first one on begin with the star that comes. -/
theorem back_snoc_of_unstarred (unstarred : ps.any (·.isStar) = false) :
    back (ps ++ [p]) = if p.isStar then [p] else [] := by
  have nothing : ps.dropWhile (!·.isStar) = [] := by
    rw [List.dropWhile_eq_nil_iff]
    intro q member
    rw [List.any_eq_false] at unstarred
    simpa using unstarred q member
  rw [back, List.dropWhile_append, nothing]
  cases star : p.isStar <;> simp [star]

/-- There is still at most one star exactly if there was, and the piece is not a second one. -/
theorem one_star_snoc_iff :
    (ps ++ [p]).countP (·.isStar) ≤ 1
      ↔ ps.countP (·.isStar) ≤ 1 ∧ (p.isStar = true → ps.any (·.isStar) = false) := by
  rw [List.countP_append, List.countP_singleton, List.any_eq_false,
    ← List.countP_eq_zero (p := fun q : Piece => q.isStar)]
  cases star : p.isStar with
  | false => simp
  | true =>
    rw [if_pos rfl, forall_prop_of_true rfl]
    omega

/-- Nothing collects named arguments but the last piece exactly if none of the others does. -/
theorem collector_last_snoc_iff :
    (∀ q ∈ (ps ++ [p]).dropLast, q.isCollector = false) ↔ ps.any (·.isCollector) = false := by
  simp only [List.dropLast_concat, List.any_eq_false, Bool.not_eq_true]

/-- The names are still distinct exactly if they were and the name is new. -/
theorem distinct_snoc_iff :
    ((ps ++ [p]).filterMap (·.name?)).Nodup
      ↔ (ps.filterMap (·.name?)).Nodup ∧ ∀ name ∈ p.name?, name ∉ ps.filterMap (·.name?) := by
  cases named : p.name? with
  | none => simp [List.filterMap_append, named]
  | some name =>
    rw [List.filterMap_append, show [p].filterMap (·.name?) = [name] by simp [named],
      List.nodup_append']
    simp

/-- The pieces before the first star are still ordered exactly if they were and the piece may come
where a default has come. -/
theorem ordered_snoc_iff :
    ((front (ps ++ [p])).Pairwise fun q r => q.isOptional = true → r.isRequired = false)
      ↔ ((front ps).Pairwise fun q r => q.isOptional = true → r.isRequired = false)
        ∧ (p.isRequired = true → ps.any (·.isStar) = false →
          (front ps).any (·.isOptional) = false) := by
  cases starred : ps.any (·.isStar) with
  | true => simp [front_snoc_of_starred starred]
  | false =>
    rw [front_snoc_of_unstarred starred, front_of_unstarred starred]
    cases star : p.isStar with
    | true =>
      have optional : p.isRequired = false := by cases p <;> first | rfl | cases star
      simp [optional]
    | false =>
      rw [if_neg (by simp), List.pairwise_append, List.any_eq_false]
      refine and_congr_right fun _ => ?_
      cases required : p.isRequired <;> simp [required]

/-- Pieces with one more are grammatical exactly if they are without it and it fits. -/
theorem grammatical_snoc_iff : Grammatical (ps ++ [p]) ↔ Grammatical ps ∧ Fits ps p := by
  constructor
  · intro h
    have unclosed := collector_last_snoc_iff.mp h.collector_last
    obtain ⟨one, first⟩ := one_star_snoc_iff.mp h.one_star
    obtain ⟨distinct, new⟩ := distinct_snoc_iff.mp h.distinct
    obtain ⟨ordered, fits⟩ := ordered_snoc_iff.mp h.ordered
    refine ⟨⟨one, fun q member => ?_, distinct, ordered⟩, ⟨unclosed, first, new, fits⟩⟩
    exact Bool.eq_false_iff.mpr
      (List.any_eq_false.mp unclosed q ((List.dropLast_sublist ps).subset member))
  · rintro ⟨h, fits⟩
    exact ⟨one_star_snoc_iff.mpr ⟨h.one_star, fits.first_star⟩,
      collector_last_snoc_iff.mpr fits.unclosed, distinct_snoc_iff.mpr ⟨h.distinct, fits.new⟩,
      ordered_snoc_iff.mpr ⟨h.ordered, fits.ordered⟩⟩

/-- The first pieces of a grammatical list are grammatical. -/
theorem Grammatical.left {qs : List Piece} (h : Grammatical (ps ++ qs)) : Grammatical ps := by
  induction qs using List.reverseRecOn with
  | nil => rwa [List.append_nil] at h
  | append_singleton qs q ih =>
    rw [← List.append_assoc] at h
    exact ih (grammatical_snoc_iff.mp h).1

end snoc

/-! ## Names and defaults -/

section names

variable {c : Char} {name text rest : List Char} {default : Option (List Char)}

/-- What an identifier is made of is no blank. -/
theorem isBlank_of_isWord (word : (c == '_' || c.isAlphanum) = true) : isBlank c = false := by
  have range : 48 ≤ c.toNat ∧ c.toNat ≤ 57 ∨ 65 ≤ c.toNat ∧ c.toNat ≤ 90
      ∨ c.toNat = 95 ∨ 97 ≤ c.toNat ∧ c.toNat ≤ 122 := by
    rw [Bool.or_eq_true, beq_iff_eq] at word
    rcases word with rfl | word
    · decide
    · have bounds : c.isAlphanum
          = ((decide (65 ≤ c.toNat ∧ c.toNat ≤ 90)
              || decide (97 ≤ c.toNat) && decide (c.toNat ≤ 122))
            || decide (48 ≤ c.toNat) && decide (c.toNat ≤ 57)) := rfl
      simp only [bounds, Bool.or_eq_true, Bool.and_eq_true, decide_eq_true_eq] at word
      omega
  simp only [isBlank, Bool.or_eq_false_iff, Bool.and_eq_false_iff, decide_eq_false_iff_not,
    beq_eq_false_iff_ne]
  omega

/-- An identifier is made of letters, digits and underscores. -/
theorem isWord_of_mem (identifier : isIdentifier name = true) (member : c ∈ name) :
    (c == '_' || c.isAlphanum) = true := by
  cases name with
  | nil => cases identifier
  | cons d r =>
    rw [isIdentifier, Bool.and_eq_true, List.all_eq_true] at identifier
    rcases List.mem_cons.mp member with rfl | member
    · have head := identifier.1
      rw [Bool.or_eq_true] at head ⊢
      exact head.imp_right fun letter => by rw [Char.isAlphanum, letter, Bool.true_or]
    · exact identifier.2 c member

/-- A name has a character. -/
theorem ne_nil_of_isIdentifier (identifier : isIdentifier name = true) : name ≠ [] := by
  rintro rfl
  cases identifier

/-- A name has no blanks at its ends. -/
theorem isTrimmed_of_isIdentifier (identifier : isIdentifier name = true) : IsTrimmed name := by
  constructor
  · intro c first
    exact isBlank_of_isWord (isWord_of_mem identifier (List.mem_of_mem_head? first))
  · intro c last
    exact isBlank_of_isWord (isWord_of_mem identifier (List.mem_of_mem_getLast? last))

/-- An identifier with blanks around it holds nothing but blanks, letters, digits and
underscores. -/
theorem not_mem_of_pads (identifier : isIdentifier name = true) (pads : Pads name text)
    (visible : isBlank c = false) (sign : (c == '_' || c.isAlphanum) = false) : c ∉ text := by
  obtain ⟨a, b, front, back, rfl⟩ := pads
  intro member
  rw [List.mem_append, List.mem_append] at member
  rcases member with (member | member) | member
  · cases visible.symm.trans (List.all_eq_true.mp front c member)
  · cases sign.symm.trans (isWord_of_mem identifier member)
  · cases visible.symm.trans (List.all_eq_true.mp back c member)

/-- An identifier is read from a text exactly if that is the identifier with blanks around it. -/
theorem trim_eq_iff_pads (identifier : isIdentifier name = true) :
    Text.trim text = name ↔ Pads name text := by
  constructor
  · rintro rfl
    exact Text.pads_trim text
  · exact fun pads => pads.trim_eq (isTrimmed_of_isIdentifier identifier)

/-- An identifier without a default. -/
theorem nameAndDefault_required_iff (identifier : isIdentifier name = true) :
    nameAndDefault rest = (name, none) ↔ Pads name rest := by
  rw [← trim_eq_iff_pads identifier]
  unfold nameAndDefault
  constructor
  · intro read
    split at read
    · cases read
    · exact (Prod.mk.inj read).1
  · intro trimmed
    have pads := (trim_eq_iff_pads identifier).mp trimmed
    rw [Text.cut?_eq_none_iff.mpr (not_mem_of_pads identifier pads (by decide) (by decide))]
    exact Prod.ext trimmed rfl

/-- An identifier with a default. -/
theorem nameAndDefault_optional_iff (identifier : isIdentifier name = true)
    {default : List Char} :
    nameAndDefault rest = (name, some default)
      ↔ ∃ text raw, Pads name text ∧ rest = text ++ '=' :: raw ∧ Text.trim raw = default := by
  unfold nameAndDefault
  constructor
  · intro read
    split at read
    · next text raw cut =>
      obtain ⟨trimmed, trimmed'⟩ := Prod.mk.inj read
      obtain ⟨_, whole⟩ := Text.cut?_eq_some_iff.mp cut
      exact ⟨text, raw, (trim_eq_iff_pads identifier).mp trimmed, whole,
        Option.some.inj trimmed'⟩
    · cases read
  · rintro ⟨text, raw, pads, rfl, rfl⟩
    have none := not_mem_of_pads identifier pads (c := '=') (by decide) (by decide)
    rw [Text.cut?_eq_some_iff.mpr ⟨none, rfl⟩]
    exact Prod.ext ((trim_eq_iff_pads identifier).mpr pads) rfl

end names

/-! ## What has been read -/

section reading

variable {ps : List Piece} {p : Piece} {name : String} {kind : Kind}

/-- What has been read after some pieces. -/
def Reading.of (ps : List Piece) : Reading where
  params := Piece.params ps
  starred := ps.any (·.isStar)
  optional := (front ps).any (·.isOptional)
  closed := ps.any (·.isCollector)

/-- The parameters of pieces have the names of the pieces. -/
theorem map_name_params (ps : List Piece) :
    (Piece.params ps).map (·.name) = ps.filterMap (·.name?) := by
  have named (single : Kind) :
      (fun p : Piece => (p.param? single).map (·.name)) = fun p => p.name? := by
    funext p
    cases p <;> rfl
  rw [Piece.params, List.map_append, List.map_filterMap, List.map_filterMap, named, named,
    ← List.filterMap_append, front, back, List.takeWhile_append_dropWhile]

/-- A parameter has a name if and only if a piece has it. -/
theorem any_name_iff :
    (Piece.params ps).any (fun p => p.name = name) = true ↔ name ∈ ps.filterMap (·.name?) := by
  rw [← map_name_params, List.any_eq_true, List.mem_map]
  simp

/-- One piece more gives at most one parameter more; a star before it makes it one that is passed
by name. -/
theorem params_snoc (ps : List Piece) (p : Piece) :
    Piece.params (ps ++ [p]) = Piece.params ps
      ++ (p.param? (if ps.any (·.isStar) then .keywordOnly else .positional)).toList := by
  unfold Piece.params
  cases starred : ps.any (·.isStar) with
  | true =>
    rw [front_snoc_of_starred starred, back_snoc_of_starred starred, List.filterMap_append,
      ← List.append_assoc]
    cases p <;> rfl
  | false =>
    have nothing : back ps = [] := by
      have whole : front ps ++ back ps = ps := List.takeWhile_append_dropWhile
      rwa [front_of_unstarred starred, List.append_right_eq_self] at whole
    rw [front_snoc_of_unstarred starred, back_snoc_of_unstarred starred, nothing,
      front_of_unstarred starred]
    cases p <;> simp [Piece.isStar, Piece.param?]

/-- A piece with a default counts before the first star only. -/
theorem any_isOptional_snoc (ps : List Piece) (p : Piece) :
    (front (ps ++ [p])).any (·.isOptional)
      = ((front ps).any (·.isOptional) || (!ps.any (·.isStar) && p.isOptional)) := by
  cases starred : ps.any (·.isStar) with
  | true => simp [front_snoc_of_starred starred]
  | false =>
    rw [front_snoc_of_unstarred starred, front_of_unstarred starred]
    cases p <;> simp [Piece.isStar, Piece.isOptional]

/-- The piece of a parameter of a kind. -/
def Piece.ofKind (kind : Kind) (name : String) (default : Option String) : Piece :=
  match kind with
  | .variadicPositional => .variadic name
  | .variadicKeyword => .collector name
  | _ => .plain name default

end reading

/-! ## Steps -/

section steps

variable {ps : List Piece} {p : Piece} {piece rest : List Char} {kind : Kind}
  {r : Reading}

/-- A text that is an identifier with blanks around it does not begin with a star. -/
theorem not_pads_star {name : List Char} (identifier : isIdentifier name = true) :
    ¬ Pads name ('*' :: rest) := fun pads =>
  not_mem_of_pads identifier pads (by decide) (by decide) List.mem_cons_self

/-- A name with blanks around it is not empty. -/
theorem not_pads_nil {name : List Char} (identifier : isIdentifier name = true) :
    ¬ Pads name [] := fun pads =>
  ne_nil_of_isIdentifier identifier ((trim_eq_iff_pads identifier).mpr pads).symm

/-- Only a star spells a star. -/
theorem Spells.eq_star (spells : Spells piece .star) : piece = ['*'] := by
  cases spells
  rfl

/-- The name behind a star. -/
theorem Spells.variadic_name {given : String} (spells : Spells piece (.variadic given)) :
    ∃ name text, piece = '*' :: text ∧ isIdentifier name = true ∧ Pads name text
      ∧ given = String.ofList name := by
  cases spells with
  | variadic identifier pads => exact ⟨_, _, rfl, identifier, pads, rfl⟩

/-- The name behind two stars. -/
theorem Spells.collector_name {given : String} (spells : Spells piece (.collector given)) :
    ∃ name text, piece = '*' :: '*' :: text ∧ isIdentifier name = true ∧ Pads name text
      ∧ given = String.ofList name := by
  cases spells with
  | collector identifier pads => exact ⟨_, _, rfl, identifier, pads, rfl⟩

/-- Nothing is spelled by an empty text. -/
theorem not_spells_nil : ¬ Spells [] p := by
  intro spells
  generalize shape : [] = s at spells
  cases spells with
  | required identifier pads => exact not_pads_nil identifier (shape ▸ pads)
  | optional => simp at shape
  | star => cases shape
  | variadic => cases shape
  | collector => cases shape

/-- What begins with a star does not spell a parameter that stands for one argument. -/
theorem not_spells_plain {name : String} {default : Option String} :
    ¬ Spells ('*' :: rest) (.plain name default) := by
  intro spells
  generalize shape : '*' :: rest = s at spells
  cases spells with
  | required identifier pads => exact not_pads_star identifier (shape ▸ pads)
  | @optional _ text _ identifier pads =>
    cases text with
    | nil => exact not_pads_nil identifier pads
    | cons c text =>
      obtain ⟨rfl, _⟩ := List.cons.inj shape
      exact not_pads_star identifier pads

/-- What begins with two stars spells the name behind them. -/
theorem spells_two_stars_iff :
    Spells ('*' :: '*' :: rest) p
      ↔ ∃ name, nameAndDefault rest = (name, none) ∧ isIdentifier name = true
        ∧ p = .collector (String.ofList name) := by
  constructor
  · intro spells
    cases p with
    | star => cases spells.eq_star
    | variadic =>
      obtain ⟨name, text, shape, identifier, pads, rfl⟩ := spells.variadic_name
      obtain rfl := List.tail_eq_of_cons_eq shape
      exact absurd pads (not_pads_star identifier)
    | collector =>
      obtain ⟨name, text, shape, identifier, pads, rfl⟩ := spells.collector_name
      cases shape
      exact ⟨_, (nameAndDefault_required_iff identifier).mpr pads, identifier, rfl⟩
    | plain => exact absurd spells not_spells_plain
  · rintro ⟨name, split, identifier, rfl⟩
    exact .collector identifier ((nameAndDefault_required_iff identifier).mp split)

/-- What begins with one star and goes on spells the name behind it. -/
theorem spells_one_star_iff (single : ∀ r, rest ≠ '*' :: r) (more : rest ≠ []) :
    Spells ('*' :: rest) p
      ↔ ∃ name, nameAndDefault rest = (name, none) ∧ isIdentifier name = true
        ∧ p = .variadic (String.ofList name) := by
  constructor
  · intro spells
    cases p with
    | star =>
      cases spells.eq_star
      exact absurd rfl more
    | variadic =>
      obtain ⟨name, text, shape, identifier, pads, rfl⟩ := spells.variadic_name
      cases shape
      exact ⟨_, (nameAndDefault_required_iff identifier).mpr pads, identifier, rfl⟩
    | collector =>
      obtain ⟨name, text, shape, _⟩ := spells.collector_name
      cases shape
      exact absurd rfl (single _)
    | plain => exact absurd spells not_spells_plain
  · rintro ⟨name, split, identifier, rfl⟩
    exact .variadic identifier ((nameAndDefault_required_iff identifier).mp split)

/-- What does not begin with a star spells a name, perhaps with a default. -/
theorem spells_unstarred_iff (unstarred : ∀ r, piece ≠ '*' :: r) :
    Spells piece p
      ↔ ∃ name default, nameAndDefault piece = (name, default) ∧ isIdentifier name = true
        ∧ p = .plain (String.ofList name) (default.map String.ofList) := by
  constructor
  · intro spells
    cases p with
    | star => exact absurd spells.eq_star (unstarred _)
    | variadic =>
      obtain ⟨name, text, shape, _⟩ := spells.variadic_name
      exact absurd shape (unstarred _)
    | collector =>
      obtain ⟨name, text, shape, _⟩ := spells.collector_name
      exact absurd shape (unstarred _)
    | plain =>
      cases spells with
      | required identifier pads =>
        exact ⟨_, none, (nameAndDefault_required_iff identifier).mpr pads, identifier, rfl⟩
      | optional default identifier pads =>
        refine ⟨_, some (Text.trim default), ?_, identifier, rfl⟩
        exact (nameAndDefault_optional_iff identifier).mpr ⟨_, _, pads, rfl, rfl⟩
  · rintro ⟨name, default, split, identifier, rfl⟩
    cases default with
    | none => exact .required identifier ((nameAndDefault_required_iff identifier).mp split)
    | some default =>
      obtain ⟨text, raw, pads, rfl, rfl⟩ := (nameAndDefault_optional_iff identifier).mp split
      exact .optional raw identifier pads

/-- A text whose stars are taken off spells a name, where its kind allows it with a default. -/
theorem spells_iff {starred : Bool} (read : stars starred piece = (kind, rest))
    (named : ¬ (kind = .variadicPositional ∧ rest = [])) :
    Spells piece p ↔ ∃ name default, nameAndDefault rest = (name, default)
      ∧ isIdentifier name = true ∧ (kind.isNamed = false → default = none)
      ∧ p = .ofKind kind (String.ofList name) (default.map String.ofList) := by
  unfold stars at read
  split at read
  · obtain ⟨rfl, rfl⟩ := Prod.mk.inj read
    simp [spells_two_stars_iff, Kind.isNamed, Piece.ofKind]
  · next rest single =>
    obtain ⟨rfl, rfl⟩ := Prod.mk.inj read
    have more : rest ≠ [] := fun nothing => named ⟨rfl, nothing⟩
    simp [spells_one_star_iff single more, Kind.isNamed, Piece.ofKind]
  · next unstarred =>
    obtain ⟨rfl, rfl⟩ := Prod.mk.inj read
    rw [spells_unstarred_iff unstarred]
    cases starred <;> simp [Kind.isNamed, Piece.ofKind]

/-- A star alone spells nothing but itself. -/
theorem spells_lone_star_iff : Spells ['*'] p ↔ p = .star := by
  constructor
  · intro spells
    cases p with
    | star => rfl
    | variadic =>
      obtain ⟨name, text, shape, identifier, pads, _⟩ := spells.variadic_name
      cases shape
      exact absurd pads (not_pads_nil identifier)
    | collector =>
      obtain ⟨name, text, shape, _⟩ := spells.collector_name
      cases shape
    | plain => exact absurd spells not_spells_plain
  · rintro rfl
    exact .star

/-- What is read as a collector without a name is a star alone. -/
theorem eq_lone_star {starred : Bool}
    (read : stars starred piece = (.variadicPositional, [])) : piece = ['*'] := by
  unfold stars at read
  split at read
  · cases read
  · cases read
    rfl
  · cases starred <;> cases read

/-- A parameter that stands for one argument is passed by name only if a star came before it. -/
theorem stars_passed {starred : Bool} (read : stars starred piece = (kind, rest))
    (single : kind.isNamed = true) : kind = if starred then .keywordOnly else .positional := by
  unfold stars at read
  split at read
  · cases read
    cases single
  · cases read
    cases single
  · exact (Prod.mk.inj read).1.symm

/-- When a parameter is taken in, and what is kept then. -/
theorem Reading.push_eq_ok_iff {r r' : Reading} : r.push kind piece rest = .ok r'
    ↔ ∃ name default, nameAndDefault rest = (name, default) ∧ isIdentifier name = true
      ∧ (kind.isNamed = false → default = none)
      ∧ ¬ r.params.any (fun p => p.name = String.ofList name) = true
      ∧ ¬ (kind = .positional ∧ default = none ∧ r.optional = true)
      ∧ r' = {
        params := r.params ++ [⟨String.ofList name, kind, default.map String.ofList⟩]
        starred := r.starred || kind = .variadicPositional
        optional := r.optional || (kind = .positional && default.isSome)
        closed := kind = .variadicKeyword } := by
  have spelled_iff (name : List Char) (default : Option (List Char)) :
      (!isIdentifier name || (!kind.isNamed && default.isSome)) = false
        ↔ isIdentifier name = true ∧ (kind.isNamed = false → default = none) := by
    cases isIdentifier name <;> cases kind.isNamed <;> cases default <;> simp
  unfold push
  constructor
  · intro pushed
    dsimp only at pushed
    split at pushed
    · cases pushed
    · next spelled =>
      rw [Bool.not_eq_true, spelled_iff] at spelled
      split at pushed
      · cases pushed
      · next new =>
        split at pushed
        · cases pushed
        · next ordered =>
          exact ⟨_, _, rfl, spelled.1, spelled.2, new, ordered, (Except.ok.inj pushed).symm⟩
  · rintro ⟨name, default, split, identifier, bare, new, ordered, rfl⟩
    have spelled := (spelled_iff name default).mpr ⟨identifier, bare⟩
    rw [split]
    dsimp only
    rw [if_neg (by rw [spelled]; exact Bool.false_ne_true), if_neg new, if_neg ordered]

section taking

variable {name : String} {default : Option String}
  (unclosed : ps.any (·.isCollector) = false)
  (passed : kind.isNamed = true → kind = if ps.any (·.isStar) then .keywordOnly else .positional)
  (first : kind = .variadicPositional → ps.any (·.isStar) = false)
  (bare : kind.isNamed = false → default = none)

include unclosed passed first in
/-- What the reader checks of a parameter is whether it fits. -/
theorem fits_ofKind_iff : Fits ps (.ofKind kind name default)
    ↔ name ∉ ps.filterMap (·.name?)
      ∧ ¬ (kind = .positional ∧ default = none ∧ (front ps).any (·.isOptional) = true) := by
  constructor
  · intro fits
    refine ⟨fits.new name ?_, ?_⟩
    · cases kind <;> rfl
    · rintro ⟨rfl, rfl, optional⟩
      have unstarred : ps.any (·.isStar) = false := by
        cases starred : ps.any (·.isStar) with
        | true =>
          rw [starred] at passed
          cases passed rfl
        | false => rfl
      exact Bool.false_ne_true ((fits.ordered rfl unstarred).symm.trans optional)
  · rintro ⟨new, ordered⟩
    refine ⟨unclosed, fun star => first ?_, ?_, ?_⟩
    · cases kind <;> first | rfl | cases star
    · intro name' named
      have same : name' = name := by cases kind <;> exact (Option.some.inj named).symm
      exact same ▸ new
    · intro required unstarred
      rw [unstarred] at passed
      rw [← Bool.not_eq_true]
      intro optional
      refine ordered ⟨?_, ?_, optional⟩
      · cases kind <;> first | exact passed rfl | cases required
      · cases kind <;> first | exact Option.isNone_iff_eq_none.mp required | cases required

include unclosed passed bare in
/-- What the reader keeps after a parameter. -/
theorem Reading.of_snoc_ofKind : Reading.of (ps ++ [.ofKind kind name default]) = {
    params := Piece.params ps ++ [⟨name, kind, default⟩]
    starred := ps.any (·.isStar) || kind = .variadicPositional
    optional := (front ps).any (·.isOptional) || (kind = .positional && default.isSome)
    closed := kind = .variadicKeyword } := by
  have listed : (Piece.ofKind kind name default).param?
      (if ps.any (·.isStar) then .keywordOnly else .positional) = some ⟨name, kind, default⟩ := by
    cases kind with
    | positional => rw [← passed rfl]; rfl
    | keywordOnly => rw [← passed rfl]; rfl
    | variadicPositional => rw [bare rfl]; rfl
    | variadicKeyword => rw [bare rfl]; rfl
  have optional : (!ps.any (·.isStar) && (Piece.ofKind kind name default).isOptional)
      = (decide (kind = .positional) && default.isSome) := by
    cases kind with
    | variadicPositional => rw [bare rfl]; exact Bool.and_false _
    | variadicKeyword => rw [bare rfl]; exact Bool.and_false _
    | positional =>
      cases starred : ps.any (·.isStar) with
      | true => rw [starred] at passed; cases passed rfl
      | false => rfl
    | keywordOnly =>
      cases starred : ps.any (·.isStar) with
      | true => rfl
      | false => rw [starred] at passed; cases passed rfl
  rw [Reading.of, params_snoc, any_isOptional_snoc, List.any_append, List.any_append, listed,
    optional, unclosed]
  cases kind <;> rfl

include unclosed passed first in
/-- A parameter is taken in exactly if it is spelled correctly and fits. -/
theorem Reading.push_of_iff : (Reading.of ps).push kind piece rest = .ok r
    ↔ ∃ name default, nameAndDefault rest = (name, default) ∧ isIdentifier name = true
      ∧ (kind.isNamed = false → default = none)
      ∧ Fits ps (.ofKind kind (String.ofList name) (default.map String.ofList))
      ∧ r = Reading.of (ps ++ [.ofKind kind (String.ofList name) (default.map String.ofList)]) := by
  rw [push_eq_ok_iff]
  refine exists_congr fun name => exists_congr fun default => and_congr_right fun _ =>
    and_congr_right fun _ => and_congr_right fun bare => ?_
  have bare' : kind.isNamed = false → default.map String.ofList = none := fun collects => by
    rw [bare collects]
    rfl
  rw [Reading.of_snoc_ofKind unclosed passed bare', fits_ofKind_iff unclosed passed first,
    ← any_name_iff, Option.map_eq_none_iff, Option.isSome_map, and_assoc]
  rfl

end taking

/-- What a single star in front makes is a star, alone or before a name. -/
theorem Spells.isStar {starred : Bool} (spells : Spells piece p)
    (read : stars starred piece = (.variadicPositional, rest)) : p.isStar = true := by
  by_cases lone : rest = []
  · subst lone
    obtain rfl := eq_lone_star read
    rw [spells_lone_star_iff.mp spells]
    rfl
  · obtain ⟨_, _, _, _, _, rfl⟩ := (spells_iff read fun h => lone h.2).mp spells
    rfl

/-- A star alone may stand where there was neither a star nor a collector of named arguments. -/
theorem fits_star_iff :
    Fits ps .star ↔ ps.any (·.isCollector) = false ∧ ps.any (·.isStar) = false := by
  constructor
  · exact fun fits => ⟨fits.unclosed, fits.first_star rfl⟩
  · rintro ⟨unclosed, unstarred⟩
    exact ⟨unclosed, fun _ => unstarred, fun _ named => (nomatch named), fun no => (nomatch no)⟩

/-- A star alone is kept as a mark only. -/
theorem Reading.of_snoc_star :
    Reading.of (ps ++ [.star]) = { Reading.of ps with starred := true } := by
  rw [Reading.of, params_snoc, any_isOptional_snoc]
  simp [Reading.of, Piece.param?, Piece.isStar, Piece.isOptional, Piece.isCollector]

/-- A piece with a name is taken in exactly if it is spelled correctly and fits. -/
theorem Reading.named_of_iff (unclosed : ps.any (·.isCollector) = false)
    (read : stars (ps.any (·.isStar)) piece = (kind, rest))
    (first : kind = .variadicPositional → ps.any (·.isStar) = false)
    (named : ¬ (kind = .variadicPositional ∧ rest = [])) :
    (Reading.of ps).push kind piece rest = .ok r
      ↔ ∃ p, Spells piece p ∧ Fits ps p ∧ r = Reading.of (ps ++ [p]) := by
  rw [push_of_iff unclosed (stars_passed read) first]
  simp only [spells_iff read named]
  constructor
  · rintro ⟨name, default, split, identifier, bare, fits, rfl⟩
    exact ⟨_, ⟨name, default, split, identifier, bare, rfl⟩, fits, rfl⟩
  · rintro ⟨_, ⟨name, default, split, identifier, bare, rfl⟩, fits, rfl⟩
    exact ⟨name, default, split, identifier, bare, fits, rfl⟩

/-- A piece is taken in exactly if it is spelled correctly and fits to those before it. -/
theorem Reading.step_of_iff : (Reading.of ps).step piece = .ok r
    ↔ ∃ p, Spells piece p ∧ Fits ps p ∧ r = Reading.of (ps ++ [p]) := by
  obtain ⟨kind, rest, read⟩ : ∃ kind rest, stars (ps.any (·.isStar)) piece = (kind, rest) :=
    ⟨_, _, rfl⟩
  have closed_iff : (Reading.of ps).closed = true ↔ ¬ ps.any (·.isCollector) = false := by
    rw [Bool.not_eq_false]
    rfl
  have starred_iff : (Reading.of ps).starred = true ↔ ¬ ps.any (·.isStar) = false := by
    rw [Bool.not_eq_false]
    rfl
  unfold step
  rw [show stars (Reading.of ps).starred piece = (kind, rest) from read]
  dsimp only
  -- from here on the questions come in the order in which the reader asks them
  by_cases nothing : piece = []
  · rw [if_pos nothing, nothing]
    exact ⟨fun taken => (nomatch taken), fun ⟨_, spells, _⟩ => absurd spells not_spells_nil⟩
  rw [if_neg nothing]
  by_cases unclosed : ps.any (·.isCollector) = false
  case neg =>
    rw [if_pos (closed_iff.mpr unclosed)]
    exact ⟨fun taken => (nomatch taken), fun ⟨_, _, fits, _⟩ => absurd fits.unclosed unclosed⟩
  rw [if_neg (mt closed_iff.mp (not_not.mpr unclosed))]
  by_cases variadic : kind = .variadicPositional
  case neg =>
    rw [if_neg variadic]
    exact named_of_iff unclosed read (fun h => absurd h variadic) fun h => variadic h.1
  rw [if_pos variadic]
  subst variadic
  by_cases unstarred : ps.any (·.isStar) = false
  case neg =>
    rw [if_pos (starred_iff.mpr unstarred)]
    refine ⟨fun taken => (nomatch taken), fun ⟨p, spells, fits, _⟩ => ?_⟩
    exact absurd (fits.first_star (spells.isStar read)) unstarred
  rw [if_neg (mt starred_iff.mp (not_not.mpr unstarred))]
  by_cases lone : rest = []
  case neg =>
    rw [if_neg lone]
    exact named_of_iff unclosed read (fun _ => unstarred) fun h => lone h.2
  rw [if_pos lone]
  subst lone
  obtain rfl := eq_lone_star read
  simp only [spells_lone_star_iff, exists_eq_left, fits_star_iff.mpr ⟨unclosed, unstarred⟩,
    of_snoc_star, true_and, Except.ok.injEq]
  exact eq_comm

/-- Pieces are taken in exactly if they are spelled correctly and grammatical together with those
before them. -/
theorem Reading.steps_of_iff {raw : List (List Char)} (grammatical : Grammatical ps) :
    (Reading.of ps).steps raw = .ok r ↔ ∃ qs, List.Forall₂ Spells (raw.map Text.trim) qs
      ∧ Grammatical (ps ++ qs) ∧ r = Reading.of (ps ++ qs) := by
  induction raw generalizing ps with
  | nil =>
    rw [steps, Except.ok.injEq]
    constructor
    · rintro rfl
      exact ⟨[], .nil, by rwa [List.append_nil], by rw [List.append_nil]⟩
    · rintro ⟨qs, spelled, _, rfl⟩
      cases spelled
      rw [List.append_nil]
  | cons piece raw ih =>
    rw [steps]
    constructor
    · intro taken
      split at taken
      · next stepped =>
        obtain ⟨p, spells, fits, rfl⟩ := step_of_iff.mp stepped
        obtain ⟨qs, spelled, whole, rfl⟩ :=
          (ih (grammatical_snoc_iff.mpr ⟨grammatical, fits⟩)).mp taken
        rw [List.append_assoc] at whole ⊢
        exact ⟨p :: qs, .cons spells spelled, whole, rfl⟩
      · cases taken
    · rintro ⟨_, spelled, whole, rfl⟩
      obtain ⟨p, qs, spells, others, rfl⟩ := List.forall₂_cons_left_iff.mp spelled
      rw [List.append_cons] at whole
      have fits := (grammatical_snoc_iff.mp whole.left).2
      rw [step_of_iff.mpr ⟨p, spells, fits, rfl⟩]
      exact (ih whole.left).mpr ⟨qs, others, whole, congrArg of (List.append_cons ..)⟩

end steps

/-! ## Texts -/

/-- The reader accepts what is blank and what is spelled by grammatical pieces, and the parameters
are those of the pieces. -/
theorem ofText_eq_ok_iff {text : String} {s : Signature} : ofText text = .ok s
    ↔ text.toList.all Text.isBlank = true ∧ s = ⟨[]⟩
      ∨ ∃ ps, Spelled text.toList ps ∧ Grammatical ps ∧ s = ⟨Piece.params ps⟩ := by
  have empty : Grammatical [] :=
    ⟨Nat.zero_le 1, fun _ member => (nomatch member), List.nodup_nil, List.Pairwise.nil⟩
  unfold ofText
  dsimp only
  by_cases blank : text.toList.all Text.isBlank = true
  · rw [if_pos (Text.trim_eq_nil_iff.mpr blank), Except.ok.injEq]
    constructor
    · exact fun same => .inl ⟨blank, same.symm⟩
    · rintro (⟨_, rfl⟩ | ⟨ps, spelled, _⟩)
      · rfl
      · -- a blank text is one piece, and nothing is left of it that could spell anything
        have none : ',' ∉ text.toList := fun member =>
          absurd (List.all_eq_true.mp blank ',' member) (by decide)
        rw [Spelled, Text.pieces_of_not_mem none, List.map_singleton,
          Text.trim_eq_nil_iff.mpr blank] at spelled
        obtain ⟨p, _, spells, _⟩ := List.forall₂_cons_left_iff.mp spelled
        exact absurd spells not_spells_nil
  · have taken {r : Reading} :
        Reading.start.steps (Text.pieces ',' (Text.trim text.toList)) = .ok r
          ↔ ∃ ps, Spelled text.toList ps ∧ Grammatical ps ∧ r = Reading.of ps := by
      rw [show Reading.start = Reading.of [] from rfl, Reading.steps_of_iff empty,
        Text.map_trim_pieces_trim (by decide)]
      rfl
    rw [if_neg (mt Text.trim_eq_nil_iff.mp blank)]
    constructor
    · intro reads
      rcases read : Reading.start.steps (Text.pieces ',' (Text.trim text.toList)) with fault | r
      · rw [read] at reads
        cases reads
      · rw [read] at reads
        cases reads
        obtain ⟨ps, spelled, grammatical, rfl⟩ := taken.mp read
        exact .inr ⟨ps, spelled, grammatical, rfl⟩
    · rintro (⟨blank', _⟩ | ⟨ps, spelled, grammatical, rfl⟩)
      · exact absurd blank' blank
      · rw [taken.mpr ⟨ps, spelled, grammatical, rfl⟩]
        rfl

/-- A text is a signature exactly if it is blank or its pieces, without the blanks at their ends,
are spelled correctly and grammatical together.  Its parameters are then those of the pieces in
their order. -/
theorem ofText_follows_grammar (text : String) :
    ((∃ s, ofText text = .ok s) ↔ text.toList.all Text.isBlank = true
        ∨ ∃ ps, Spelled text.toList ps ∧ Grammatical ps)
      ∧ ∀ s, ofText text = .ok s ↔ text.toList.all Text.isBlank = true ∧ s.params = []
        ∨ ∃ ps, Spelled text.toList ps ∧ Grammatical ps ∧ s.params = Piece.params ps := by
  constructor
  · constructor
    · rintro ⟨s, reads⟩
      rcases ofText_eq_ok_iff.mp reads with ⟨blank, _⟩ | ⟨ps, spelled, grammatical, _⟩
      · exact .inl blank
      · exact .inr ⟨ps, spelled, grammatical⟩
    · rintro (blank | ⟨ps, spelled, grammatical⟩)
      · exact ⟨_, ofText_eq_ok_iff.mpr (.inl ⟨blank, rfl⟩)⟩
      · exact ⟨_, ofText_eq_ok_iff.mpr (.inr ⟨ps, spelled, grammatical, rfl⟩)⟩
  · intro s
    have same_iff (params : List Param) : s = ⟨params⟩ ↔ s.params = params := by
      cases s
      exact Signature.mk.injEq _ _ ▸ Iff.rfl
    simp only [ofText_eq_ok_iff, same_iff]

end RemoteDriver.Signature
