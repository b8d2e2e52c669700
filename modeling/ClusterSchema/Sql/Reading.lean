import ClusterSchema.Sql.Quoting

/-!
# Reading quoted names back

What a database reads where a statement has a quoted name.  Each reader takes a text to what it read
and what is left.  A region ends at the first quote that is not doubled, a name at the first piece
that no dot follows, and a list at the first name that no comma follows.

* `readRegion?_region`  a region reads back as the text inside it
* `readPiece?_segment`  a piece reads back as itself, bare or quoted
-/

namespace ClusterSchema.Sql

/-- Reads a region whose opening quote is already read: the text inside it, and what follows it. -/
def readRegion? (quote : Char) : List Char → Option (List Char × List Char)
  | [] => none
  | [c] => if c = quote then some ([], []) else none
  | c :: d :: rest =>
    if c = quote then
      if d = quote then (readRegion? quote rest).map fun (text, after) => (quote :: text, after)
      else some ([], d :: rest)
    else (readRegion? quote (d :: rest)).map fun (text, after) => (c :: text, after)

/-- Reads one piece of a name. -/
def readPiece? : List Char → Option (List Char × List Char)
  | [] => none
  | c :: rest =>
    if c = '*' then some (['*'], rest)
    else if c = nameQuote then readRegion? nameQuote rest
    else none

/-- Reads at most `count` pieces with dots between them. -/
def readPieces? : (count : Nat) → List Char → Option (List (List Char) × List Char)
  | 0, _ => none
  | count + 1, text =>
    match readPiece? text with
    | none => none
    | some (piece, '.' :: rest) =>
      (readPieces? count rest).map fun (pieces, after) => (piece :: pieces, after)
    | some (piece, rest) => some ([piece], rest)

/-- Reads a name.  Every piece takes a character, so there are no more of them than characters. -/
def readName? (text : List Char) : Option (List (List Char) × List Char) :=
  readPieces? text.length text

/-- Reads at most `count` names with a comma and a space between them. -/
def readNames? : (count : Nat) → List Char → Option (List (List (List Char)) × List Char)
  | 0, _ => none
  | count + 1, text =>
    match readName? text with
    | none => none
    | some (name, ',' :: ' ' :: rest) =>
      (readNames? count rest).map fun (names, after) => (name :: names, after)
    | some (name, rest) => some ([name], rest)

/-- Reads a list of names up to a closing parenthesis; the list may be empty. -/
def readNameList? : List Char → Option (List (List (List Char)) × List Char)
  | ')' :: rest => some ([], ')' :: rest)
  | text => readNames? text.length text

theorem readRegion?_region (quote : Char) (text after : List Char)
    (stops : after.head? ≠ some quote) :
    readRegion? quote (doubled quote text ++ quote :: after) = some (text, after) := by
  induction text with
  | nil =>
    cases after with
    | nil => simp [doubled, readRegion?]
    | cons d rest =>
      have different : d ≠ quote := by simpa using stops
      simp [doubled, readRegion?, different]
  | cons c rest ih =>
    unfold doubled
    split
    · rename_i same
      simp [readRegion?, ih, same]
    · rename_i different
      -- what is left after `c` is never empty, so the reader looks at two characters
      obtain ⟨d, later, shape⟩ : ∃ d later, doubled quote rest ++ quote :: after = d :: later :=
        List.exists_cons_of_ne_nil (by simp)
      rw [List.cons_append, shape, readRegion?, if_neg different, ← shape, ih]
      rfl

theorem readPiece?_segment (piece after : List Char) (stops : after.head? ≠ some nameQuote) :
    readPiece? (segment piece ++ after) = some (piece, after) := by
  unfold segment
  split
  · rename_i star
    simp [star, readPiece?]
  · have notStar : nameQuote ≠ '*' := by decide
    simp [region, readPiece?, notStar, readRegion?_region nameQuote piece after stops]

end ClusterSchema.Sql
