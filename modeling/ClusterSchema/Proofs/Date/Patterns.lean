import ClusterSchema.Date.Pattern

/-!
# Reading back a pattern

A pattern is written piece after piece and read without knowing where one piece ends.  It comes
apart at the places where it was put together: the letters of a directive end with the directive, so
that what follows is never taken for a part of it, and a percent sign that stands for itself is
doubled.

* `directive?_letters_append`  a directive is read from its letters, whatever follows
* `read?_spellings`            the pieces of a pattern are those it was put together from
* `text?_spellings`            its text is theirs
-/

namespace ClusterSchema.Date

variable {t : DateTime} {zone : Option Zone}

namespace Piece

/-- Every piece takes at least one character. -/
theorem spelling_ne_nil (piece : Piece) : piece.spelling ≠ [] := by
  cases piece with
  | literal c => by_cases percent : c = '%' <;> simp [spelling, percent]
  | directive d => simp [spelling]

/-- So there is a character for each piece, and fuel for reading it. -/
theorem length_le_spellings (pieces : List Piece) :
    pieces.length ≤ (pieces.flatMap spelling).length := by
  induction pieces with
  | nil => simp
  | cons piece rest ih =>
    have some := List.length_pos_iff.mpr piece.spelling_ne_nil
    simp only [List.length_cons, List.flatMap_cons, List.length_append]
    omega

/-- One piece alone has its own text. -/
theorem texts?_singleton (piece : Piece) : texts? t zone [piece] = piece.text? t zone := by
  simp only [texts?]
  cases piece.text? t zone with
  | none => rfl
  | some text => simp

/-- Pieces in a row have their texts in a row, if each of them has one. -/
theorem texts?_append (pieces others : List Piece) :
    texts? t zone (pieces ++ others) =
      (texts? t zone pieces).bind fun text => (texts? t zone others).map (text ++ ·) := by
  induction pieces with
  | nil => simp [texts?]
  | cons piece rest ih =>
    simp only [List.cons_append, texts?, ih]
    -- a piece without a text leaves neither side with one
    cases piece.text? t zone with
    | none => rfl
    | some first =>
      cases texts? t zone rest with
      | none => rfl
      | some text => cases texts? t zone others <;> simp

end Piece

namespace Pattern

/-- The letters of a directive end with it, so nothing behind them is taken for a part of it. -/
theorem directive?_letters_append (d : Directive) (rest : List Char) :
    directive? (d.letters ++ rest) = some (.directive d, rest) := by
  cases d <;> rfl

/-- One piece is read at a time, and reading goes on right behind it. -/
theorem pieces?_spelling_append (fuel : Nat) (piece : Piece) (rest : List Char) :
    pieces? (fuel + 1) (piece.spelling ++ rest) = (pieces? fuel rest).map (piece :: ·) := by
  cases piece with
  | literal c =>
    -- the second of two percent signs is what `directive?` reads behind the first
    by_cases percent : c = '%'
    · rw [percent]
      cases later : pieces? fuel rest <;> simp [Piece.spelling, pieces?, directive?, later]
    · simp [Piece.spelling, pieces?, percent]
  | directive d =>
    -- the directive is read from its letters, and the rest is untouched
    have taken := directive?_letters_append d rest
    cases later : pieces? fuel rest <;> simp [Piece.spelling, pieces?, taken, later]

/-- With fuel for each of them, all pieces are read back. -/
theorem pieces?_spellings {fuel : Nat} {pieces : List Piece} (enough : pieces.length ≤ fuel) :
    pieces? fuel (pieces.flatMap Piece.spelling) = some pieces := by
  induction pieces generalizing fuel with
  | nil => cases fuel <;> rfl
  | cons piece rest ih =>
    -- every piece takes one unit of fuel, however many characters spell it
    obtain ⟨fuel, rfl⟩ : ∃ less, fuel = less + 1 :=
      Nat.exists_eq_succ_of_ne_zero (by simp only [List.length_cons] at enough; omega)
    rw [List.flatMap_cons, pieces?_spelling_append, ih (by simpa using enough), Option.map_some]

/-- The characters of a pattern are fuel enough. -/
theorem read?_spellings (pieces : List Piece) :
    read? (pieces.flatMap Piece.spelling) = some pieces :=
  pieces?_spellings (Piece.length_le_spellings pieces)

/-- The text of a pattern is that of the pieces it was put together from. -/
theorem text?_spellings (pieces : List Piece) :
    text? (pieces.flatMap Piece.spelling) t zone =
      (Piece.texts? t zone pieces).map String.ofList := by
  simp only [text?, read?_spellings]
  cases texts : Piece.texts? t zone pieces <;> simp [texts]

end Pattern

end ClusterSchema.Date
