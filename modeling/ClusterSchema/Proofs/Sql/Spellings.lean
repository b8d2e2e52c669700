import ClusterSchema.Proofs.Sql.Names

/-!
# Spellings of names

What a quoted name is, apart from how it is written and read here: pieces with dots between them,
each of them a bare `*` or a text between quotes with the quotes inside it doubled, and a list of
names has a comma and a space between neighbours.  The readers accept nothing else, and what they
leave is what stands behind a spelling.

* `exists_spelling_of_readName?`      a name that is read is spelled in front of what is left
* `exists_spelling_of_readNameList?`  the same for a list of names
* `ofPieces_pieces`                   the pieces of a name make it up again
-/

namespace ClusterSchema.Sql

variable {text after : List Char}

/-- A text spells a piece of a name. -/
inductive SpellsPiece : (text piece : List Char) → Prop where
  | bare : SpellsPiece ['*'] ['*']
  | quoted (piece : List Char) : SpellsPiece (region nameQuote piece) piece

/-- A text spells a name, given by its pieces. -/
inductive SpellsName : (text : List Char) → (pieces : List (List Char)) → Prop where
  | last {text piece : List Char} (spells : SpellsPiece text piece) : SpellsName text [piece]
  | dot {text piece rest : List Char} {pieces : List (List Char)} (spells : SpellsPiece text piece)
      (others : SpellsName rest pieces) : SpellsName (text ++ '.' :: rest) (piece :: pieces)

/-- A text spells names, one after the other. -/
inductive SpellsNames : (text : List Char) → (names : List (List (List Char))) → Prop where
  | last {text : List Char} {name : List (List Char)} (spells : SpellsName text name) :
      SpellsNames text [name]
  | comma {text rest : List Char} {name : List (List Char)} {names : List (List (List Char))}
      (spells : SpellsName text name) (others : SpellsNames rest names) :
      SpellsNames (text ++ ',' :: ' ' :: rest) (name :: names)

/-! ## What readers accept -/

/-- A region is read up to its closing quote. -/
theorem eq_of_readRegion? {quote : Char} {inside : List Char}
    (read : readRegion? quote text = some (inside, after)) :
    text = doubled quote inside ++ quote :: after := by
  fun_induction readRegion? quote text generalizing inside after with
  | case1 => cases read
  | case2 => cases read; rfl
  | case3 => cases read
  -- a doubled quote stands for one, and the region goes on
  | case4 rest ih =>
    obtain ⟨⟨inner, left⟩, readInner, same⟩ := Option.map_eq_some_iff.mp read
    cases same
    simp [doubled, ih readInner]
  | case5 d rest different => cases read; rfl
  -- any other character stands for itself
  | case6 c d rest different ih =>
    obtain ⟨⟨inner, left⟩, readInner, same⟩ := Option.map_eq_some_iff.mp read
    cases same
    simp [doubled, different, ih readInner]

/-- What is read as a piece spells it: a bare star, or a text in quotes. -/
theorem exists_spelling_of_readPiece? {piece : List Char}
    (read : readPiece? text = some (piece, after)) :
    ∃ spelled, SpellsPiece spelled piece ∧ text = spelled ++ after := by
  unfold readPiece? at read
  split at read
  · cases read
  split at read
  · -- a star that no quote follows
    rename_i star
    cases read
    exact ⟨['*'], .bare, by rw [star]; rfl⟩
  split at read
  · rename_i isQuote
    refine ⟨region nameQuote piece, .quoted piece, ?_⟩
    rw [isQuote, eq_of_readRegion? read, region, List.cons_append, List.append_assoc]
    rfl
  · cases read

/-- What is read as pieces spells them, with dots between them. -/
theorem exists_spelling_of_readPieces? {count : Nat} {pieces : List (List Char)}
    (read : readPieces? count text = some (pieces, after)) :
    ∃ spelled, SpellsName spelled pieces ∧ text = spelled ++ after := by
  induction count generalizing text pieces with
  | zero => cases read
  | succ count ih =>
    unfold readPieces? at read
    split at read
    · cases read
    · -- a dot follows, and more pieces behind it
      rename_i piece rest first
      obtain ⟨⟨others, left⟩, readOthers, same⟩ := Option.map_eq_some_iff.mp read
      cases same
      obtain ⟨spelled, spells, shape⟩ := exists_spelling_of_readPiece? first
      obtain ⟨later, spellsLater, rfl⟩ := ih readOthers
      exact ⟨spelled ++ '.' :: later, .dot spells spellsLater, by rw [shape]; simp⟩
    -- no dot follows, so this piece is the last
    · rename_i piece rest _ first
      cases read
      obtain ⟨spelled, spells, shape⟩ := exists_spelling_of_readPiece? first
      exact ⟨spelled, .last spells, shape⟩

/-- What is read as a name spells it. -/
theorem exists_spelling_of_readName? {pieces : List (List Char)}
    (read : readName? text = some (pieces, after)) :
    ∃ spelled, SpellsName spelled pieces ∧ text = spelled ++ after :=
  exists_spelling_of_readPieces? read

/-- What is read as names spells them, with commas between them. -/
theorem exists_spelling_of_readNames? {count : Nat} {names : List (List (List Char))}
    (read : readNames? count text = some (names, after)) :
    ∃ spelled, SpellsNames spelled names ∧ text = spelled ++ after := by
  induction count generalizing text names with
  | zero => cases read
  | succ count ih =>
    unfold readNames? at read
    split at read
    · cases read
    · -- a comma and a space follow, and more names behind them
      rename_i name rest first
      obtain ⟨⟨others, left⟩, readOthers, same⟩ := Option.map_eq_some_iff.mp read
      cases same
      obtain ⟨spelled, spells, shape⟩ := exists_spelling_of_readName? first
      obtain ⟨later, spellsLater, rfl⟩ := ih readOthers
      exact ⟨spelled ++ ',' :: ' ' :: later, .comma spells spellsLater, by rw [shape]; simp⟩
    · rename_i name rest _ first
      cases read
      obtain ⟨spelled, spells, shape⟩ := exists_spelling_of_readName? first
      exact ⟨spelled, .last spells, shape⟩

/-- What is read as a list spells its names, and nothing is read as no names only where the list
closes at once. -/
theorem exists_spelling_of_readNameList? {names : List (List (List Char))}
    (read : readNameList? text = some (names, after)) :
    (names = [] ∧ text = after ∧ text.head? = some ')') ∨
      ∃ spelled, SpellsNames spelled names ∧ text = spelled ++ after := by
  unfold readNameList? at read
  split at read
  · cases read
    exact .inl ⟨rfl, rfl, rfl⟩
  · exact .inr (exists_spelling_of_readNames? read)

/-! ## Pieces -/

/-- The name that pieces make up. -/
def ofPieces (pieces : List (List Char)) : String := String.ofList (['.'].intercalate pieces)

/-- The pieces of a name make it up again. -/
theorem ofPieces_pieces (name : String) : ofPieces (Text.pieces '.' name.toList) = name := by
  rw [ofPieces, Text.intercalate_pieces, String.ofList_toList]

end ClusterSchema.Sql
