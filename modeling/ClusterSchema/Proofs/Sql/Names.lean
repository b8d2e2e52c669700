import ClusterSchema.Sql.Reading

/-!
# Names read back

A quoted name shows where it ends: whatever is written after it, as long as that does not look like
more of the name, the reader stops there and has the pieces of the name.  So two statements that
agree up to a name agree in the name as well.

* `readName?_dotted`        the pieces of a name read back
* `readNameList?_nameList`  the names of a list in parentheses read back
* `name_append_inj`, `nameList_append_inj`, `literal_append_inj`
                            equal texts that start with these start with the same one
-/

namespace ClusterSchema.Sql

/-- What follows a name does not continue it. -/
def Ends (after : List Char) : Prop := after.head? ≠ some nameQuote ∧ after.head? ≠ some '.'

/-- A character that is neither a quote nor a dot ends a name. -/
theorem ends_cons {c : Char} {after : List Char} (noQuote : c ≠ nameQuote) (noDot : c ≠ '.') :
    Ends (c :: after) := by
  simp [Ends, noQuote, noDot]

/-- A space ends a name. -/
theorem ends_space (after : List Char) : Ends (' ' :: after) :=
  ends_cons (by decide) (by decide)

/-- So does the end of the text. -/
theorem ends_nil : Ends [] := by simp [Ends]

/-! ## Reading -/

/-- A piece takes at least one character. -/
theorem segment_ne_nil (piece : List Char) : segment piece ≠ [] := by
  unfold segment
  split
  · rename_i star
    simp [star]
  · simp [region]

/-- A piece starts with its quote or is a star. -/
theorem head?_segment (piece : List Char) :
    (segment piece).head? = some nameQuote ∨ (segment piece).head? = some '*' := by
  unfold segment
  split
  · rename_i star
    simp [star]
  · simp [region]

/-- There is a character for each piece, so a text is fuel enough for its pieces. -/
theorem length_le_dotted (pieces : List (List Char)) : pieces.length ≤ (dotted pieces).length := by
  fun_induction dotted pieces with
  | case1 => simp
  | case2 piece =>
    have := List.length_pos_iff.mpr (segment_ne_nil piece)
    simp only [List.length_singleton]
    omega
  | case3 piece next rest ih =>
    simp only [List.length_append, List.length_cons] at ih ⊢
    omega

/-- Pieces with dots between them are read back, one after the other, up to what ends the name. -/
theorem readPieces?_dotted {pieces : List (List Char)} (some : pieces ≠ []) {count : Nat}
    (enough : pieces.length ≤ count) {after : List Char} (ends : Ends after) :
    readPieces? count (dotted pieces ++ after) = .some (pieces, after) := by
  induction pieces generalizing count with
  | nil => exact absurd rfl some
  | cons piece rest ih =>
    obtain ⟨count, rfl⟩ : ∃ fewer, count = fewer + 1 :=
      Nat.exists_eq_add_one.mpr (Nat.lt_of_lt_of_le (by simp) enough)
    cases rest with
    | nil =>
      simp only [dotted, readPieces?, readPiece?_segment piece after ends.1]
      -- the last piece: no dot follows, so the reader stops here
      split
      · rename_i impossible
        cases impossible
      · rename_i read
        cases read
        exact absurd rfl ends.2
      · rename_i read
        cases read
        rfl
    -- a dot follows, and the pieces behind it are read with what fuel is left
    | cons next others =>
      have continues : ('.' :: (dotted (next :: others) ++ after)).head? ≠ .some nameQuote := by
        simp [nameQuote]
      simp only [dotted, List.append_assoc, List.cons_append, readPieces?,
        readPiece?_segment piece _ continues, ih (by simp) (by simpa using enough), Option.map_some]

/-- A text is fuel enough for reading its name. -/
theorem readName?_dotted {pieces : List (List Char)} (some : pieces ≠ []) {after : List Char}
    (ends : Ends after) : readName? (dotted pieces ++ after) = .some (pieces, after) := by
  apply readPieces?_dotted some _ ends
  have := length_le_dotted pieces
  simp only [List.length_append]
  omega

/-- A name is written piece by piece. -/
theorem toList_name (text : String) :
    (name text).toList = dotted (Text.pieces '.' text.toList) := String.toList_ofList

/-- A name reads back as its pieces, whatever stands behind it. -/
theorem readName?_name (text : String) {after : List Char} (ends : Ends after) :
    readName? ((name text).toList ++ after) = some (Text.pieces '.' text.toList, after) := by
  rw [toList_name]
  exact readName?_dotted (Text.pieces_ne_nil _ _) ends

/-- A name starts as its first piece does. -/
theorem head?_name (text : String) (after : List Char) :
    ((name text).toList ++ after).head? = some nameQuote ∨
      ((name text).toList ++ after).head? = some '*' := by
  obtain ⟨piece, others, shape⟩ :=
    List.exists_cons_of_ne_nil (Text.pieces_ne_nil '.' text.toList)
  rw [toList_name, shape]
  cases others with
  | nil => rcases head?_segment piece with same | same <;> simp [dotted, same]
  | cons next rest => rcases head?_segment piece with same | same <;> simp [dotted, same]

/-- A comma and a space stand between two names of a list. -/
theorem toList_nameList_cons (first second : String) (rest : List String) :
    (nameList (first :: second :: rest)).toList =
      (name first).toList ++ ',' :: ' ' :: (nameList (second :: rest)).toList := by
  simp [nameList, Text.joined]

/-- A list that is not empty starts as its first name does. -/
theorem head?_nameList_cons (first : String) (rest : List String) (after : List Char) :
    ((nameList (first :: rest)).toList ++ after).head? = some nameQuote ∨
      ((nameList (first :: rest)).toList ++ after).head? = some '*' := by
  cases rest with
  | nil => exact head?_name first after
  | cons second others =>
    rw [toList_nameList_cons, List.append_assoc]
    exact head?_name first _

/-- There is a character for each name but the first. -/
theorem length_le_nameList (names : List String) :
    names.length ≤ (nameList names).toList.length + 1 := by
  induction names with
  | nil => simp
  | cons first rest ih =>
    cases rest with
    | nil => simp
    | cons second others =>
      rw [toList_nameList_cons]
      simp only [List.length_cons, List.length_append] at ih ⊢
      omega

/-- Names of a list are read back, one after the other, up to the closing parenthesis. -/
theorem readNames?_nameList {names : List String} (some : names ≠ []) {count : Nat}
    (enough : names.length ≤ count) (after : List Char) :
    readNames? count ((nameList names).toList ++ ')' :: after) =
      .some (names.map (Text.pieces '.' ·.toList), ')' :: after) := by
  induction names generalizing count with
  | nil => exact absurd rfl some
  | cons first rest ih =>
    obtain ⟨count, rfl⟩ : ∃ fewer, count = fewer + 1 :=
      Nat.exists_eq_add_one.mpr (Nat.lt_of_lt_of_le (by simp) enough)
    cases rest with
    | nil =>
      -- the parenthesis ends the last name, and the list with it
      have read := readName?_name first (ends_cons (by decide) (by decide) : Ends (')' :: after))
      simp [nameList, Text.joined, readNames?, read]
    | cons second others =>
      have read := fun later : List Char =>
        readName?_name first (ends_cons (by decide) (by decide) : Ends (',' :: ' ' :: later))
      simp only [toList_nameList_cons, List.append_assoc, List.cons_append, readNames?, read,
        ih (by simp) (by simpa using enough), Option.map_some, List.map_cons]

/-- The names of a list in parentheses read back, up to the closing one. -/
theorem readNameList?_nameList (names : List String) (after : List Char) :
    readNameList? ((nameList names).toList ++ ')' :: after) =
      some (names.map (Text.pieces '.' ·.toList), ')' :: after) := by
  cases names with
  | nil => rfl
  | cons first rest =>
    have start := head?_nameList_cons first rest (')' :: after)
    have long := length_le_nameList (first :: rest)
    unfold readNameList?
    -- a name does not start with the parenthesis that would close an empty list
    split
    · rename_i closed
      rw [closed] at start
      exact absurd start (by simp [nameQuote])
    · apply readNames?_nameList (by simp)
      simp only [List.length_append, List.length_cons] at long ⊢
      omega

/-! ## Cancelling -/

/-- Texts that are equal and read back show the same thing and leave the same. -/
theorem read_inj {α : Type} {read : List Char → Option (α × List Char)} {text₁ text₂ : List Char}
    {value₁ value₂ : α} {after₁ after₂ : List Char} (read₁ : read text₁ = some (value₁, after₁))
    (read₂ : read text₂ = some (value₂, after₂)) (same : text₁ = text₂) :
    value₁ = value₂ ∧ after₁ = after₂ := by
  rw [same, read₂] at read₁
  simpa [eq_comm] using read₁

/-- A text is known from its pieces. -/
theorem pieces_injective (separator : Char) :
    Function.Injective fun text : String => Text.pieces separator text.toList := by
  intro text₁ text₂ same
  apply String.toList_injective
  -- the pieces with their separator between them are the text again
  rw [← Text.intercalate_pieces separator text₁.toList,
    ← Text.intercalate_pieces separator text₂.toList]
  exact congrArg _ same

/-- Texts that start with a name start with the same one where they are equal. -/
theorem name_append_inj {name₁ name₂ : String} {after₁ after₂ : List Char} (ends₁ : Ends after₁)
    (ends₂ : Ends after₂)
    (same : (name name₁).toList ++ after₁ = (name name₂).toList ++ after₂) :
    name₁ = name₂ ∧ after₁ = after₂ := by
  obtain ⟨pieces, rest⟩ := read_inj (readName?_name name₁ ends₁) (readName?_name name₂ ends₂) same
  exact ⟨pieces_injective '.' pieces, rest⟩

/-- Different names are written differently. -/
theorem name_injective : Function.Injective name := by
  intro name₁ name₂ same
  exact (name_append_inj ends_nil ends_nil (congrArg (·.toList ++ []) same)).1

/-- So it is with lists of names up to their parenthesis. -/
theorem nameList_append_inj {names₁ names₂ : List String} {after₁ after₂ : List Char}
    (same : (nameList names₁).toList ++ ')' :: after₁ = (nameList names₂).toList ++ ')' :: after₂) :
    names₁ = names₂ ∧ after₁ = after₂ := by
  obtain ⟨pieces, rest⟩ :=
    read_inj (readNameList?_nameList names₁ after₁) (readNameList?_nameList names₂ after₂) same
  -- lists with the same pieces in each place are the same
  have names := (List.map_inj_right fun _ _ => @pieces_injective '.' _ _).mp pieces
  exact ⟨names, List.tail_eq_of_cons_eq rest⟩

/-- Different lists are written differently. -/
theorem nameList_injective : Function.Injective nameList := by
  intro names₁ names₂ same
  exact (nameList_append_inj (congrArg (·.toList ++ [')']) same)).1

/-- A text constant is a region in its own quotes. -/
theorem toList_literal (text : String) :
    (literal text).toList = region textQuote text.toList := String.toList_ofList

/-- And so it is with text constants, as long as no quote stands behind them. -/
theorem literal_append_inj {text₁ text₂ : String} {after₁ after₂ : List Char}
    (ends₁ : after₁.head? ≠ some textQuote) (ends₂ : after₂.head? ≠ some textQuote)
    (same : (literal text₁).toList ++ after₁ = (literal text₂).toList ++ after₂) :
    text₁ = text₂ ∧ after₁ = after₂ := by
  have read₁ := readRegion?_region textQuote text₁.toList after₁ ends₁
  have read₂ := readRegion?_region textQuote text₂.toList after₂ ends₂
  -- the opening quote goes, and both sides are read up to the closing one
  simp only [toList_literal, region, List.cons_append, List.append_assoc, List.nil_append] at same
  obtain ⟨text, rest⟩ := read_inj read₁ read₂ (List.tail_eq_of_cons_eq same)
  exact ⟨String.toList_injective text, rest⟩

end ClusterSchema.Sql
