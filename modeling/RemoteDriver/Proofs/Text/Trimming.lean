import Mathlib.Data.List.DropRight
import RemoteDriver.Text.Blank

/-!
# Trimming and splitting

Trimming takes off blanks at the two ends and nothing else (`pads_trim`, `isTrimmed_trim`), so that
a text without blanks at its ends is what is left of it with any blanks around it
(`Pads.trim_eq`).  Splitting follows the way in which a text is put together (`pieces_append`):
blanks around a text touch its first and its last piece only, and trimming the text before it is
split or the pieces afterwards comes to the same (`map_trim_pieces_trim`).  Cutting at a separator
takes the first one (`cut?_eq_some_iff`).
-/

namespace RemoteDriver.Text

/-- No blank stands at either end of a text. -/
def IsTrimmed (s : List Char) : Prop :=
  (∀ c ∈ s.head?, isBlank c = false) ∧ ∀ c ∈ s.getLast?, isBlank c = false

/-- A text is another one with blanks around it. -/
def Pads (inner s : List Char) : Prop :=
  ∃ a b, a.all isBlank = true ∧ b.all isBlank = true ∧ s = a ++ inner ++ b

section trimming

variable {a b s inner : List Char}

/-! ## Trimming -/

/-- Blanks in front of a text are trimmed off. -/
theorem trim_append_left (blank : a.all isBlank = true) : trim (a ++ s) = trim s := by
  unfold trim trimFront
  rw [List.dropWhile_append_of_pos (List.all_eq_true.mp blank)]

/-- Blanks behind a text are trimmed off at the back. -/
theorem trimBack_append (blank : b.all isBlank = true) : trimBack (s ++ b) = trimBack s := by
  unfold trimBack
  rw [List.reverse_append, List.dropWhile_append_of_pos]
  exact fun c member => List.all_eq_true.mp blank c (List.mem_reverse.mp member)

/-- Blanks behind a text are trimmed off. -/
theorem trim_append_right (blank : b.all isBlank = true) : trim (s ++ b) = trim s := by
  unfold trim trimFront
  rw [List.dropWhile_append]
  split
  · next nothing =>
    rw [List.isEmpty_iff.mp nothing, List.dropWhile_eq_nil_iff.mpr (List.all_eq_true.mp blank)]
  · exact trimBack_append blank

/-- Blanks around a text are taken off with those at its own ends. -/
theorem Pads.trim_eq_trim (pads : Pads inner s) : trim s = trim inner := by
  obtain ⟨a, b, front, back, rfl⟩ := pads
  rw [trim_append_right back, trim_append_left front]

/-- Trimming takes off blanks and nothing else. -/
theorem pads_trim (s : List Char) : Pads (trim s) s := by
  refine ⟨s.takeWhile isBlank, (trimFront s).rtakeWhile isBlank, ?_, ?_, ?_⟩
  · exact List.all_takeWhile
  · exact List.all_eq_true.mpr fun _ => List.mem_rtakeWhile_imp
  · show s = s.takeWhile isBlank ++ (trimFront s).rdropWhile isBlank
      ++ (trimFront s).rtakeWhile isBlank
    rw [List.append_assoc, List.rdropWhile_append_rtakeWhile]
    exact List.takeWhile_append_dropWhile.symm

/-- After trimming no blank is left at the ends. -/
theorem isTrimmed_trim (s : List Char) : IsTrimmed (trim s) := by
  constructor
  · intro c first
    have kept : trim s <+: trimFront s := List.rdropWhile_prefix isBlank (trimFront s)
    have first : (s.dropWhile isBlank).head? = some c := by
      obtain ⟨more, whole⟩ := kept
      rw [trimFront] at whole
      rw [← whole, List.head?_append, Option.mem_def.mp first]
      rfl
    have stops := List.head?_dropWhile_not isBlank s
    rw [first] at stops
    exact stops
  · intro c last
    have last : ((trimFront s).reverse.dropWhile isBlank).head? = some c := by
      rw [← List.getLast?_reverse]
      exact last
    have stops := List.head?_dropWhile_not isBlank (trimFront s).reverse
    rw [last] at stops
    exact stops

/-- Trimming leaves a text alone that has no blank at its ends. -/
theorem IsTrimmed.trim_eq (trimmed : IsTrimmed s) : trim s = s := by
  have front : trimFront s = s := by
    rw [trimFront, List.dropWhile_eq_self_iff]
    intro some blank
    have first := trimmed.1 s[0] (List.head?_eq_getElem? ▸ List.getElem?_eq_getElem some)
    exact Bool.false_ne_true (first.symm.trans blank)
  have back : s.rdropWhile isBlank = s := by
    rw [List.rdropWhile_eq_self_iff]
    intro some blank
    have last := trimmed.2 (s.getLast some) (List.getLast?_eq_some_getLast some)
    exact Bool.false_ne_true (last.symm.trans blank)
  rw [trim, front]
  exact back

/-- What has no blank at its ends is what trimming leaves of it with blanks around it. -/
theorem Pads.trim_eq (pads : Pads inner s) (trimmed : IsTrimmed inner) : trim s = inner :=
  pads.trim_eq_trim.trans trimmed.trim_eq

/-- Trimming adds nothing. -/
theorem mem_of_mem_trim {c : Char} (member : c ∈ trim s) : c ∈ s := by
  obtain ⟨a, b, _, _, split⟩ := pads_trim s
  rw [split]
  exact List.mem_append_left _ (List.mem_append_right _ member)

/-- Two texts without blanks at their ends make one. -/
theorem IsTrimmed.append (ha : IsTrimmed a) (hb : IsTrimmed b) : IsTrimmed (a ++ b) := by
  constructor
  · intro c first
    rw [List.head?_append, Option.mem_def, Option.or_eq_some_iff] at first
    exact first.elim (ha.1 c) fun h => hb.1 c h.2
  · intro c last
    rw [List.getLast?_append, Option.mem_def, Option.or_eq_some_iff] at last
    exact last.elim (hb.2 c) fun h => ha.2 c h.2

/-- Nothing is left of a text if and only if it is all blanks. -/
theorem trim_eq_nil_iff : trim s = [] ↔ s.all isBlank = true := by
  constructor
  · intro nothing
    obtain ⟨a, b, front, back, split⟩ := pads_trim s
    rw [split, nothing, List.append_nil, List.all_append, front, back]
    rfl
  · intro blank
    exact Pads.trim_eq ⟨s, [], blank, rfl, by simp⟩ ⟨by simp, by simp⟩

end trimming

/-! ## Splitting -/

section splitting

variable {sep : Char} {a b s t : List Char}

/-- A separator in front makes an empty piece. -/
theorem pieces_cons_self (sep : Char) (r : List Char) :
    pieces sep (sep :: r) = [] :: pieces sep r := by
  rw [pieces, if_pos rfl]

/-- Another character in front belongs to the first piece. -/
theorem pieces_cons_of_ne {c : Char} (other : c ≠ sep) {p : List Char} {ps : List (List Char)}
    (split : pieces sep t = p :: ps) : pieces sep (c :: t) = (c :: p) :: ps := by
  rw [pieces, if_neg other, split]

/-- A text without the separator is one piece. -/
theorem pieces_of_not_mem (none : sep ∉ s) : pieces sep s = [s] := by
  induction s with
  | nil => rfl
  | cons c r ih =>
    rw [List.mem_cons, not_or] at none
    exact pieces_cons_of_ne (Ne.symm none.1) (ih none.2)

/-- Where two texts are put together the last piece of the one and the first piece of the other
become one. -/
theorem pieces_append (sep : Char) (s t : List Char) :
    ∃ init last first rest, pieces sep s = init ++ [last] ∧ pieces sep t = first :: rest
      ∧ pieces sep (s ++ t) = init ++ (last ++ first) :: rest := by
  induction s with
  | nil =>
    obtain ⟨first, rest, split⟩ := List.exists_cons_of_ne_nil (pieces_ne_nil sep t)
    exact ⟨[], [], first, rest, rfl, split, split⟩
  | cons c r ih =>
    obtain ⟨init, last, first, rest, left, right, both⟩ := ih
    by_cases same : c = sep
    · subst same
      refine ⟨[] :: init, last, first, rest, ?_, right, ?_⟩
      · rw [pieces_cons_self, left, List.cons_append]
      · rw [List.cons_append, pieces_cons_self, both, List.cons_append]
    · -- the character joins the first piece of the rest, which is its last one too if it is alone
      cases init with
      | nil =>
        refine ⟨[], c :: last, first, rest, pieces_cons_of_ne same left, right, ?_⟩
        exact pieces_cons_of_ne same both
      | cons i init =>
        refine ⟨(c :: i) :: init, last, first, rest, pieces_cons_of_ne same left, right, ?_⟩
        exact pieces_cons_of_ne same both

/-- A text without the separator joins the first piece of what follows. -/
theorem pieces_append_of_not_mem (none : sep ∉ s) (t : List Char) :
    ∃ first rest, pieces sep t = first :: rest ∧ pieces sep (s ++ t) = (s ++ first) :: rest := by
  obtain ⟨init, last, first, rest, left, right, both⟩ := pieces_append sep s t
  rw [pieces_of_not_mem none] at left
  cases init with
  | nil =>
    obtain rfl : s = last := List.singleton_inj.mp left
    exact ⟨first, rest, right, both⟩
  | cons i init => simp at left

/-- A text without the separator before the separator is the first piece. -/
theorem pieces_cut (none : sep ∉ s) (t : List Char) :
    pieces sep (s ++ sep :: t) = s :: pieces sep t := by
  obtain ⟨first, rest, right, both⟩ := pieces_append_of_not_mem none (sep :: t)
  rw [pieces_cons_self] at right
  obtain ⟨rfl, rfl⟩ := List.cons.inj right
  rw [both, List.append_nil]

/-- Blanks in front of a text do not show in its trimmed pieces. -/
theorem map_trim_pieces_append_left (none : sep ∉ a) (blank : a.all isBlank = true) :
    (pieces sep (a ++ s)).map trim = (pieces sep s).map trim := by
  obtain ⟨first, rest, right, both⟩ := pieces_append_of_not_mem none s
  rw [both, right, List.map_cons, List.map_cons, trim_append_left blank]

/-- Blanks behind a text do not show in its trimmed pieces. -/
theorem map_trim_pieces_append_right (none : sep ∉ b) (blank : b.all isBlank = true) :
    (pieces sep (s ++ b)).map trim = (pieces sep s).map trim := by
  obtain ⟨init, last, first, rest, left, right, both⟩ := pieces_append sep s b
  rw [pieces_of_not_mem none] at right
  obtain ⟨rfl, rfl⟩ := List.cons.inj right
  rw [both, left, List.map_append, List.map_append, List.map_singleton, List.map_singleton,
    trim_append_right blank]

/-- Blanks around a text make no difference to its trimmed pieces. -/
theorem map_trim_pieces_trim (visible : isBlank sep = false) (s : List Char) :
    (pieces sep (trim s)).map trim = (pieces sep s).map trim := by
  have none {r : List Char} (blank : r.all isBlank = true) : sep ∉ r := fun member =>
    Bool.false_ne_true (visible.symm.trans (List.all_eq_true.mp blank sep member))
  obtain ⟨a, b, front, back, split⟩ := pads_trim s
  conv_rhs => rw [split]
  rw [map_trim_pieces_append_right (none back) back, map_trim_pieces_append_left (none front) front]

/-! ## Cutting -/

/-- A text is not cut if and only if the separator is not in it. -/
theorem cut?_eq_none_iff : cut? sep s = none ↔ sep ∉ s := by
  induction s with
  | nil => simp [cut?]
  | cons c r ih =>
    by_cases same : c = sep
    · simp [cut?, same]
    · simp [cut?, same, Ne.symm same, ih]

/-- A text is cut at the first separator. -/
theorem cut?_eq_some_iff : cut? sep s = some (a, b) ↔ sep ∉ a ∧ s = a ++ sep :: b := by
  induction s generalizing a with
  | nil => simp [cut?]
  | cons c r ih =>
    by_cases same : c = sep
    · subst same
      cases a with
      | nil => simp [cut?, eq_comm]
      | cons d a =>
        rw [cut?, if_pos rfl]
        constructor
        · intro cut
          cases cut
        · rintro ⟨none, whole⟩
          exact absurd (List.mem_cons.mpr (.inl (List.cons.inj whole).1)) none
    · rw [cut?, if_neg same, Option.map_eq_some_iff]
      constructor
      · rintro ⟨⟨a', b'⟩, cut, same'⟩
        obtain ⟨rfl, rfl⟩ := Prod.mk.inj same'
        obtain ⟨none, rfl⟩ := ih.mp cut
        exact ⟨List.not_mem_cons_of_ne_of_not_mem (Ne.symm same) none, rfl⟩
      · rintro ⟨none, whole⟩
        cases a with
        | nil => exact absurd (List.cons.inj whole).1 same
        | cons d a =>
          obtain ⟨rfl, rfl⟩ := List.cons.inj whole
          exact ⟨(a, b), ih.mpr ⟨List.not_mem_of_not_mem_cons none, rfl⟩, rfl⟩

end splitting

end RemoteDriver.Text
