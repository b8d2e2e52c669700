import ClusterSchema.Dialect.Cockroach
import ClusterSchema.Proofs.Sql.Names

/-!
# Clauses read back

What a statement has at a place where a clause can stand tells whether the clause is there and what
it says.  Each lemma takes two equal texts that start with a clause of one kind and gives the same
clause and the same rest.

* `tableName_append_inj`      the table, when the prefix is the same
* `tableName_eq_iff`          the schema and the full name, when the prefix is not the same
* `usingClause_append_inj`    the index method, when no method holds an opening parenthesis
* `storingClause_append_inj`  the stored columns
* `timingClause_inj`          when a constraint is checked, as far as the clause says
* `searchVectors_inj`         the columns of a full-text index, and their language if there are any
-/

namespace ClusterSchema.Dialect

/-! ## Tables -/

/-- The pieces of a table's name: the schema, if it is named, and the table's own name with its
prefix, each a piece whatever dots it holds. -/
def tablePieces (tablePrefix : String) (table : TableReference) : List (List Char) :=
  table.schema.toList.map String.toList ++ [(tablePrefix ++ table.name).toList]

/-- A table's name is written piece by piece. -/
theorem toList_tableName (tablePrefix : String) (table : TableReference) :
    (tableName tablePrefix table).toList = Sql.dotted (tablePieces tablePrefix table) := by
  unfold tableName tablePieces
  cases table.schema <;> simp [Sql.singleName, Sql.dotted]

/-- The pieces tell the schema and the full name, and nothing about where the prefix ends. -/
theorem tablePieces_eq_iff {tablePrefix₁ tablePrefix₂ : String} {table₁ table₂ : TableReference} :
    tablePieces tablePrefix₁ table₁ = tablePieces tablePrefix₂ table₂ ↔
      table₁.schema = table₂.schema ∧
        tablePrefix₁ ++ table₁.name = tablePrefix₂ ++ table₂.name := by
  obtain ⟨schema₁, name₁⟩ := table₁
  obtain ⟨schema₂, name₂⟩ := table₂
  cases schema₁ <;> cases schema₂ <;> simp [tablePieces, ← String.toList_inj]

/-- Under one prefix the pieces tell the table. -/
theorem tablePieces_injective (tablePrefix : String) :
    Function.Injective (tablePieces tablePrefix) := by
  rintro ⟨schema₁, name₁⟩ ⟨schema₂, name₂⟩ same
  obtain ⟨schema, fullName⟩ := tablePieces_eq_iff.mp same
  -- the prefix is the same on both sides, so it cancels
  have name : name₁ = name₂ := by simpa [← String.toList_inj] using fullName
  simp only [TableReference.mk.injEq]
  exact ⟨schema, name⟩

/-- A table's name reads back as its pieces, whatever stands behind it. -/
theorem readName?_tableName (tablePrefix : String) (table : TableReference) {after : List Char}
    (ends : Sql.Ends after) :
    Sql.readName? ((tableName tablePrefix table).toList ++ after) =
      some (tablePieces tablePrefix table, after) := by
  rw [toList_tableName]
  exact Sql.readName?_dotted (by simp [tablePieces]) ends

/-- Equal texts that start with tables under one prefix start with the same table. -/
theorem tableName_append_inj {tablePrefix : String} {table₁ table₂ : TableReference}
    {after₁ after₂ : List Char} (ends₁ : Sql.Ends after₁) (ends₂ : Sql.Ends after₂)
    (same : (tableName tablePrefix table₁).toList ++ after₁ =
      (tableName tablePrefix table₂).toList ++ after₂) :
    table₁ = table₂ ∧ after₁ = after₂ := by
  obtain ⟨pieces, rest⟩ := Sql.read_inj (readName?_tableName tablePrefix table₁ ends₁)
    (readName?_tableName tablePrefix table₂ ends₂) same
  exact ⟨tablePieces_injective tablePrefix pieces, rest⟩

/-- A table's name shows the schema and the full name, prefix and all. -/
theorem tableName_eq_iff {tablePrefix₁ tablePrefix₂ : String} {table₁ table₂ : TableReference} :
    tableName tablePrefix₁ table₁ = tableName tablePrefix₂ table₂ ↔
      table₁.schema = table₂.schema ∧
        tablePrefix₁ ++ table₁.name = tablePrefix₂ ++ table₂.name := by
  rw [← tablePieces_eq_iff]
  constructor
  · intro same
    have texts := congrArg (·.toList ++ []) same
    exact (Sql.read_inj (readName?_tableName tablePrefix₁ table₁ Sql.ends_nil)
      (readName?_tableName tablePrefix₂ table₂ Sql.ends_nil) texts).1
  · intro same
    apply String.toList_injective
    rw [toList_tableName, toList_tableName, same]

/-- Under one prefix different tables are written differently. -/
theorem tableName_injective (tablePrefix : String) : Function.Injective (tableName tablePrefix) :=
  fun _ _ same =>
    tablePieces_injective tablePrefix (tablePieces_eq_iff.mpr (tableName_eq_iff.mp same))

/-! ## Optional clauses -/

/-- What stands before the first opening parenthesis is not more and not less in one text than in
an equal one. -/
theorem parenthesis_append_inj {before₁ before₂ after₁ after₂ : List Char} (plain₁ : '(' ∉ before₁)
    (plain₂ : '(' ∉ before₂) (same : before₁ ++ '(' :: after₁ = before₂ ++ '(' :: after₂) :
    before₁ = before₂ ∧ after₁ = after₂ :=
  Sql.read_inj (Text.cutAtFirst_eq_some_iff.mpr ⟨rfl, plain₁⟩)
    (Text.cutAtFirst_eq_some_iff.mpr ⟨rfl, plain₂⟩) same

/-- An empty method is written as none. -/
theorem usingClause_filter (algorithm : Option String) :
    usingClause (algorithm.filter (· ≠ "")) = usingClause algorithm := by
  cases algorithm with
  | none => rfl
  | some method => by_cases empty : method = "" <;> simp [usingClause, Option.filter_some, empty]

/-- The clause shows its method, if there is one that is not empty. -/
theorem usingClause_inj {algorithm₁ algorithm₂ : Option String}
    (same : usingClause algorithm₁ = usingClause algorithm₂) :
    algorithm₁.filter (· ≠ "") = algorithm₂.filter (· ≠ "") := by
  -- either text is empty or shows its method behind the keyword
  have shown : ∀ algorithm : Option String,
      (algorithm.filter (· ≠ "") = none ∧ (usingClause algorithm).toList = []) ∨
        ∃ method, algorithm.filter (· ≠ "") = some method ∧
          (usingClause algorithm).toList = " using ".toList ++ method.toList := by
    rintro (_ | method)
    · simp [usingClause]
    · by_cases empty : method = "" <;> simp [usingClause, Option.filter_some, empty]
  have same := congrArg String.toList same
  rcases shown algorithm₁ with ⟨none₁, text₁⟩ | ⟨method₁, some₁, text₁⟩ <;>
    rcases shown algorithm₂ with ⟨none₂, text₂⟩ | ⟨method₂, some₂, text₂⟩ <;>
      rw [text₁, text₂] at same
  · rw [none₁, none₂]
  · simp at same
  · simp at same
  · rw [some₁, some₂, String.toList_injective (List.append_cancel_left same)]

/-- A method without an opening parenthesis leaves the clause without one. -/
theorem not_mem_usingClause {algorithm : Option String}
    (plain : ∀ text ∈ algorithm, '(' ∉ text.toList) : '(' ∉ (usingClause algorithm).toList := by
  unfold usingClause
  split
  · split
    · simp
    · simp [plain _ rfl]
  · simp

/-- Up to the list of columns the clause shows its method, as long as no method reaches into that
list. -/
theorem usingClause_append_inj {algorithm₁ algorithm₂ : Option String} {after₁ after₂ : List Char}
    (plain₁ : ∀ text ∈ algorithm₁, '(' ∉ text.toList)
    (plain₂ : ∀ text ∈ algorithm₂, '(' ∉ text.toList)
    (same : (usingClause algorithm₁).toList ++ ' ' :: '(' :: after₁ =
      (usingClause algorithm₂).toList ++ ' ' :: '(' :: after₂) :
    algorithm₁.filter (· ≠ "") = algorithm₂.filter (· ≠ "") ∧ after₁ = after₂ := by
  -- the space in front of the parenthesis belongs to what comes before it
  have spaced : ∀ {algorithm : Option String}, (∀ text ∈ algorithm, '(' ∉ text.toList) →
      '(' ∉ (usingClause algorithm).toList ++ [' '] := by
    intro algorithm plain
    simp [not_mem_usingClause plain]
  obtain ⟨clause, rest⟩ :=
    parenthesis_append_inj (spaced plain₁) (spaced plain₂) (by simpa using same)
  exact ⟨usingClause_inj (String.toList_injective (List.append_cancel_right clause)), rest⟩

/-- The clause shows the stored columns, as long as nothing behind it looks like it. -/
theorem storingClause_append_inj {storing₁ storing₂ : List String} {after₁ after₂ : List Char}
    (other₁ : after₁.take 2 ≠ [' ', 's']) (other₂ : after₂.take 2 ≠ [' ', 's'])
    (same : (Cockroach.storingClause storing₁).toList ++ after₁ =
      (Cockroach.storingClause storing₂).toList ++ after₂) :
    storing₁ = storing₂ ∧ after₁ = after₂ := by
  -- a clause on one side only would have to be the start of what follows on the other
  cases storing₁ with
  | nil =>
    cases storing₂ with
    | nil => exact ⟨rfl, same⟩
    | cons first rest =>
      exact absurd (by rw [show after₁ = _ from same]; simp [Cockroach.storingClause]) other₁
  | cons first₁ rest₁ =>
    cases storing₂ with
    | nil =>
      exact absurd (by rw [show after₂ = _ from same.symm]; simp [Cockroach.storingClause]) other₂
    | cons first₂ rest₂ =>
      simp only [Cockroach.storingClause, List.isEmpty_cons, Bool.false_eq_true, if_false,
        String.toList_append, List.append_assoc, List.append_cancel_left_eq] at same
      exact Sql.nameList_append_inj same

/-- What is said about timing does not look like stored columns. -/
theorem take_timingClause (deferrable immediate : Option Bool) :
    (timingClause deferrable immediate).toList.take 2 ≠ [' ', 's'] := by
  fun_cases timingClause deferrable immediate <;> simp

/-- The clause shows whether a constraint is deferrable, and the start of one that is. -/
theorem timingClause_inj {deferrable₁ immediate₁ deferrable₂ immediate₂ : Option Bool}
    (same : timingClause deferrable₁ immediate₁ = timingClause deferrable₂ immediate₂) :
    deferrable₁ = deferrable₂ ∧ (deferrable₁ = some true → immediate₁ = immediate₂) := by
  unfold timingClause at same
  -- the five texts differ, so equal ones come from one case of the clause
  split at same <;> split at same <;> simp at same ⊢

/-! ## Search vectors -/

/-- Texts that are joined have the separator in front of each but the first. -/
theorem toList_joined_cons (separator text : String) (rest : List String) :
    (Text.joined separator (text :: rest)).toList =
      text.toList ++ rest.flatMap fun next => separator.toList ++ next.toList := by
  induction rest generalizing text with
  | nil => simp [Text.joined]
  | cons next others ih => simp [Text.joined, ih]

/-- A search vector shows its language and its column. -/
theorem searchVector_append_inj {language₁ language₂ column₁ column₂ : String}
    {after₁ after₂ : List Char}
    (same : (Postgres.searchVector language₁ column₁).toList ++ after₁ =
      (Postgres.searchVector language₂ column₂).toList ++ after₂) :
    language₁ = language₂ ∧ column₁ = column₂ ∧ after₁ = after₂ := by
  simp only [Postgres.searchVector, String.toList_append, List.append_assoc,
    List.append_cancel_left_eq] at same
  -- the language stands in quotes of its own, and the column behind it
  obtain ⟨language, same⟩ :=
    Sql.literal_append_inj (by simp [Sql.textQuote]) (by simp [Sql.textQuote]) same
  obtain ⟨column, same⟩ := Sql.name_append_inj (Sql.ends_cons (by decide) (by decide))
    (Sql.ends_cons (by decide) (by decide)) (List.append_cancel_left same)
  exact ⟨language, column, List.tail_eq_of_cons_eq same⟩

/-- The columns after the first one, each behind its operator. -/
theorem furtherVectors_inj {language : String} {columns₁ columns₂ : List String}
    (same : (columns₁.flatMap fun column =>
        " || ".toList ++ (Postgres.searchVector language column).toList) ++ "))".toList =
      (columns₂.flatMap fun column =>
        " || ".toList ++ (Postgres.searchVector language column).toList) ++ "))".toList) :
    columns₁ = columns₂ := by
  induction columns₁ generalizing columns₂ with
  -- with no further column on one side there is none on the other
  | nil =>
    cases columns₂ with
    | nil => rfl
    | cons second₂ others₂ => simp at same
  | cons second₁ others₁ ih =>
    cases columns₂ with
    | nil => simp at same
    | cons second₂ others₂ =>
      simp only [List.flatMap_cons, List.append_assoc, List.append_cancel_left_eq] at same
      obtain ⟨-, column, same⟩ := searchVector_append_inj same
      rw [column, ih same]

/-- Joined search vectors show their columns, and their language if there is any column. -/
theorem searchVectors_inj {language₁ language₂ : String} {columns₁ columns₂ : List String}
    (same : (Text.joined " || " (columns₁.map (Postgres.searchVector language₁))).toList ++
        "))".toList =
      (Text.joined " || " (columns₂.map (Postgres.searchVector language₂))).toList ++
        "))".toList) :
    columns₁ = columns₂ ∧ (columns₁ ≠ [] → language₁ = language₂) := by
  cases columns₁ with
  | nil =>
    cases columns₂ with
    | nil => simp
    | cons first₂ rest₂ => simp [toList_joined_cons, Postgres.searchVector, Text.joined] at same
  | cons first₁ rest₁ =>
    cases columns₂ with
    | nil => simp [toList_joined_cons, Postgres.searchVector, Text.joined] at same
    | cons first₂ rest₂ =>
      simp only [List.map_cons, toList_joined_cons, List.flatMap_map, List.append_assoc] at same
      -- the first vector shows the language, and with it the others show their columns
      obtain ⟨rfl, rfl, further⟩ := searchVector_append_inj same
      rw [furtherVectors_inj further]
      simp

end ClusterSchema.Dialect
