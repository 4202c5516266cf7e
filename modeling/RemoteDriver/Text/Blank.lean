/-!
# Blanks

Trimming and splitting of texts, as lists of characters.  A *blank* is a character with the
Unicode property `White_Space`, so that trimming takes off no-break spaces and line separators
as well as the ASCII blanks.
-/

namespace RemoteDriver.Text

/-- The characters with the Unicode property `White_Space`. -/
def isBlank (c : Char) : Bool :=
  let n := c.toNat
  (9 ≤ n && n ≤ 13) || n == 0x20 || n == 0x85 || n == 0xA0 || n == 0x1680
    || (0x2000 ≤ n && n ≤ 0x200A) || n == 0x2028 || n == 0x2029 || n == 0x202F
    || n == 0x205F || n == 0x3000

/-- A text without the blanks at its front. -/
def trimFront (s : List Char) : List Char := s.dropWhile isBlank

/-- A text without the blanks at its back. -/
def trimBack (s : List Char) : List Char := (s.reverse.dropWhile isBlank).reverse

/-- A text without the blanks at its two ends. -/
def trim (s : List Char) : List Char := trimBack (trimFront s)

/-- The pieces of a text between the occurrences of `sep`: always one more than there are
occurrences, the empty text being one empty piece. -/
def pieces (sep : Char) : List Char → List (List Char)
  | [] => [[]]
  | c :: r =>
    if c = sep then [] :: pieces sep r
    else match pieces sep r with
      | p :: ps => (c :: p) :: ps
      | [] => [[c]]

/-- The text before and the text after the first occurrence of `sep`, if there is one. -/
def cut? (sep : Char) : List Char → Option (List Char × List Char)
  | [] => none
  | c :: r => if c = sep then some ([], r) else (cut? sep r).map fun (a, b) => (c :: a, b)

/-- Pieces put together again, with `sep` between them. -/
def joined (sep : Char) : List (List Char) → List Char
  | [] => []
  | [p] => p
  | p :: q :: ps => p ++ sep :: joined sep (q :: ps)

/-! ## The pieces and the text -/

/-- There is always a piece. -/
theorem pieces_ne_nil (sep : Char) (s : List Char) : pieces sep s ≠ [] := by
  cases s with
  | nil => simp [pieces]
  | cons c r =>
    simp only [pieces]
    split
    · simp
    · split <;> simp

/-- No piece holds the separator. -/
theorem not_mem_of_mem_pieces {sep : Char} {s p : List Char} (h : p ∈ pieces sep s) :
    sep ∉ p := by
  induction s generalizing p with
  | nil => simp [pieces] at h; simp [h]
  | cons c r ih =>
    simp only [pieces] at h
    split at h
    · rcases List.mem_cons.1 h with rfl | h
      · simp
      · exact ih h
    · next hc =>
      cases hp : pieces sep r with
      | nil => exact absurd hp (pieces_ne_nil sep r)
      | cons q qs =>
        rw [hp] at h
        rcases List.mem_cons.1 h with rfl | h
        · have := ih (p := q) (by simp [hp])
          simp only [List.mem_cons, not_or]
          exact ⟨fun e => hc e.symm, this⟩
        · exact ih (by simp [hp, h])

end RemoteDriver.Text
