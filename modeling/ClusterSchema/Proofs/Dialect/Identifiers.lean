import ClusterSchema.Proofs.Dialect.Clauses
import ClusterSchema.Proofs.Sql.Spellings

/-!
# Identifiers read back

Every identifier in a statement comes back whole, whatever it holds: a dotted name as the parts
between its dots, a table as its schema and its own name with the prefix, and a list of columns as
these columns.  Quotes, commas, parentheses and spaces inside never end a piece early, and nothing
behind an identifier is taken for a part of it.

* `identifiers_read_back`  for names, tables and lists of columns, with any text behind them
-/

namespace ClusterSchema.Dialect

/-- Identifiers read back, up to a text that does not continue them.  What is read is always spelled
in front of what is left, and no two identifiers of a kind are written alike. -/
theorem identifiers_read_back (tablePrefix : String) :
    (∀ (value : String) (after : List Char), Sql.Ends after →
      Sql.readName? ((Sql.name value).toList ++ after) = some (value.toList.splitOn '.', after)) ∧
    (∀ (table : TableReference) (after : List Char), Sql.Ends after →
      Sql.readName? ((tableName tablePrefix table).toList ++ after) =
        some (tablePieces tablePrefix table, after)) ∧
    (∀ (columns : List String) (after : List Char), ∃ names,
      Sql.readNameList? ((Sql.nameList columns).toList ++ ')' :: after) =
          some (names, ')' :: after) ∧
        names = columns.map (·.toList.splitOn '.') ∧ names.map Sql.ofPieces = columns) ∧
    (∀ text pieces after, Sql.readName? text = some (pieces, after) →
      ∃ spelled, Sql.SpellsName spelled pieces ∧ text = spelled ++ after) ∧
    (∀ text names after, Sql.readNameList? text = some (names, after) →
      (names = [] ∧ text = after ∧ text.head? = some ')') ∨
        ∃ spelled, Sql.SpellsNames spelled names ∧ text = spelled ++ after) ∧
    Function.Injective Sql.name ∧ Function.Injective Sql.nameList ∧
      Function.Injective (tableName tablePrefix) := by
  refine ⟨?_, ?_, ?_, ?_, ?_, Sql.name_injective, Sql.nameList_injective,
    tableName_injective tablePrefix⟩
  · intro value after ends
    rw [← Text.pieces_eq_splitOn]
    exact Sql.readName?_name value ends
  · exact fun table after ends => readName?_tableName tablePrefix table ends
  · intro columns after
    have pieces : columns.map (Text.pieces '.' ·.toList) = columns.map (·.toList.splitOn '.') := by
      simp only [Text.pieces_eq_splitOn]
    refine ⟨_, Sql.readNameList?_nameList columns after, pieces, ?_⟩
    -- the pieces of each column make up the column again
    rw [List.map_map]
    exact List.map_id'' Sql.ofPieces_pieces columns
  · exact fun text pieces after read => Sql.exists_spelling_of_readName? read
  · exact fun text names after read => Sql.exists_spelling_of_readNameList? read

/-- Names that look like the end of what they stand in: quotes in a column, a dot and a quote in a
table, commas and parentheses in a list. -/
theorem identifiers_read_back_misleading :
    Sql.readName? ((Sql.name "a\" on \"b.*").toList ++ [' ', '(']) =
        some (["a\" on \"b".toList, ['*']], [' ', '(']) ∧
      Sql.readName? ((tableName "app." { schema := some "*", name := "x\"" }).toList ++ ['@']) =
        some ([['*'], "app.x\"".toList], ['@']) ∧
      (∃ names, Sql.readNameList? ((Sql.nameList ["a\", \"b", "c)", ""]).toList ++ [')']) =
        some (names, [')']) ∧ names.map Sql.ofPieces = ["a\", \"b", "c)", ""]) ∧
      ∃ spelled, Sql.SpellsName spelled [['*'], ['b', '\x22']] ∧
        "*.\"b\"\"\",".toList = spelled ++ [','] := by
  obtain ⟨names, tables, lists, spelled, -⟩ := identifiers_read_back "app."
  refine ⟨?_, ?_, ?_, ?_⟩
  · exact names "a\" on \"b.*" [' ', '('] (Sql.ends_space _)
  · exact tables { schema := some "*", name := "x\"" } ['@'] (Sql.ends_cons (by decide) (by decide))
  · obtain ⟨read, isRead, -, back⟩ := lists ["a\", \"b", "c)", ""] []
    exact ⟨read, isRead, back⟩
  · exact spelled _ _ _ (by decide)

end ClusterSchema.Dialect
