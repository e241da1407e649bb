/-!
# Blanks, words and lines

A text is read as a list of characters.  This module cuts such a list at the
characters of a class: at blanks, which gives its words, or at line feeds,
which gives its lines.  A blank is any character that Unicode counts as white
space.
-/

namespace Rover.Text

/-- The characters that Unicode counts as white space. -/
def isBlank (character : Char) : Bool :=
  let code := character.toNat
  (9 ≤ code && code ≤ 13) || code == 0x20 || code == 0x85 || code == 0xA0 ||
    code == 0x1680 || (0x2000 ≤ code && code ≤ 0x200A) || code == 0x2028 ||
    code == 0x2029 || code == 0x202F || code == 0x205F || code == 0x3000

/-- Both ends of a text without their blanks. -/
def trim (text : List Char) : List Char :=
  ((text.dropWhile isBlank).reverse.dropWhile isBlank).reverse

/--
The stretches between the characters of a class, empty ones included: a text
with `n` such characters has `n + 1` pieces.
-/
def pieces (separates : Char → Bool) : List Char → List (List Char)
  | [] => [[]]
  | character :: rest =>
      if separates character then
        [] :: pieces separates rest
      else
        match pieces separates rest with
        | [] => [[character]]
        | first :: others => (character :: first) :: others

/-- The stretches without a blank, none of them empty. -/
def words (text : List Char) : List (List Char) :=
  (pieces isBlank text).filter fun piece => !piece.isEmpty

/--
The lines of a text.  A line feed ends a line, so nothing follows the last
one unless some character does.
-/
def lines (text : List Char) : List (List Char) :=
  let cut := pieces (· == '\n') text
  if cut.getLast? == some [] then cut.dropLast else cut

/-- Whether two texts agree once the letters `A` to `Z` are made small. -/
def sameFolded (left right : List Char) : Bool :=
  left.map Char.toLower == right.map Char.toLower

/-- Whether a word is the given keyword, whatever the case of its ASCII letters. -/
def isKeyword (keyword : String) (word : List Char) : Bool :=
  sameFolded keyword.toList word

/-- There is always a piece, if only the empty one. -/
theorem pieces_ne_nil (separates : Char → Bool) (text : List Char) :
    pieces separates text ≠ [] := by
  induction text with
  | nil => simp [pieces]
  | cons character rest ih =>
      simp only [pieces]
      split
      · simp
      · cases equation : pieces separates rest with
        | nil => simp
        | cons first others => simp

/-- No piece holds a separating character. -/
theorem not_separates_of_mem_pieces {separates : Char → Bool} {text piece : List Char}
    (member : piece ∈ pieces separates text) {character : Char}
    (inside : character ∈ piece) : separates character = false := by
  induction text generalizing piece character with
  | nil => simp_all [pieces]
  | cons head rest ih =>
      simp only [pieces] at member
      split at member
      · rcases List.mem_cons.mp member with rfl | later
        · simp at inside
        · exact ih later inside
      · rename_i separate
        cases equation : pieces separates rest with
        | nil => simp_all
        | cons first others =>
            simp only [equation, List.mem_cons] at member ih
            rcases member with rfl | later
            · rcases List.mem_cons.mp inside with rfl | deeper
              · simpa using separate
              · exact ih (Or.inl rfl) deeper
            · exact ih (Or.inr later) inside

/-- A word is never empty. -/
theorem ne_nil_of_mem_words {text word : List Char} (member : word ∈ words text) :
    word ≠ [] := by
  simpa [words] using (List.mem_filter.mp member).2

/-- A word holds no blank. -/
theorem not_isBlank_of_mem_words {text word : List Char} (member : word ∈ words text)
    {character : Char} (inside : character ∈ word) : isBlank character = false :=
  not_separates_of_mem_pieces (List.mem_filter.mp member).1 inside

end Rover.Text
