/-!
# Pieces of a text

Cutting a text at a separator and putting pieces together again.

* `intercalate_pieces`  the pieces with the separator between them are the text that was cut
* `pieces_ne_nil`       there is always a piece
* `not_mem_of_mem_pieces`  no piece holds the separator
* `pieces_eq_splitOn`, `joined_eq_intercalate`  the library's words for both
* `cutAtFirst_eq_some_iff`, `cutAtLast_eq_some_iff`  where a text is cut in two
-/

namespace ClusterSchema.Text

/-- The pieces of a text between the occurrences of `separator`; a text without any is one piece. -/
def pieces (separator : Char) : List Char → List (List Char)
  | [] => [[]]
  | c :: rest =>
    if c = separator then [] :: pieces separator rest
    else
      match pieces separator rest with
      | [] => [[c]]
      | piece :: others => (c :: piece) :: others

/-- What stands before and after the first `separator`, if there is one. -/
def cutAtFirst (separator : Char) : List Char → Option (List Char × List Char)
  | [] => none
  | c :: rest =>
    if c = separator then some ([], rest)
    else (cutAtFirst separator rest).map fun (before, after) => (c :: before, after)

/-- What stands before and after the last `separator`, if there is one. -/
def cutAtLast (separator : Char) : List Char → Option (List Char × List Char)
  | [] => none
  | c :: rest =>
    match cutAtLast separator rest with
    | some (before, after) => some (c :: before, after)
    | none => if c = separator then some ([], rest) else none

/-- Texts one after the other with `separator` between neighbours. -/
def joined (separator : String) : List String → String
  | [] => ""
  | [text] => text
  | text :: next :: rest => text ++ separator ++ joined separator (next :: rest)

theorem pieces_ne_nil (separator : Char) (text : List Char) : pieces separator text ≠ [] := by
  fun_cases pieces separator text <;> simp

theorem intercalate_pieces (separator : Char) (text : List Char) :
    [separator].intercalate (pieces separator text) = text := by
  induction text with
  | nil => rfl
  | cons c rest ih =>
    obtain ⟨piece, others, shape⟩ := List.exists_cons_of_ne_nil (pieces_ne_nil separator rest)
    rw [shape] at ih
    rw [pieces, shape]
    split
    · rename_i same
      rw [List.intercalate_cons_cons, ih, same]
      rfl
    · cases others with
      | nil => rw [← ih]; rfl
      | cons next others =>
        rw [← ih, List.intercalate_cons_cons, List.intercalate_cons_cons]
        rfl

theorem not_mem_of_mem_pieces {separator : Char} {text piece : List Char}
    (member : piece ∈ pieces separator text) : separator ∉ piece := by
  induction text generalizing piece with
  | nil => simp_all [pieces]
  | cons c rest ih =>
    by_cases same : c = separator
    · simp only [pieces, same, if_true, List.mem_cons] at member
      rcases member with rfl | member
      · simp
      · exact ih member
    · obtain ⟨first, others, shape⟩ := List.exists_cons_of_ne_nil (pieces_ne_nil separator rest)
      simp only [pieces, same, if_false, shape, List.mem_cons] at member
      rcases member with rfl | member
      · have apart : separator ∉ first := ih (by simp [shape])
        simp [apart, Ne.symm same]
      · exact ih (by simp [shape, member])

theorem pieces_eq_splitOn (separator : Char) (text : List Char) :
    pieces separator text = text.splitOn separator := by
  have apart : ∀ piece ∈ pieces separator text, separator ∉ piece :=
    fun _ member => not_mem_of_mem_pieces member
  have split := List.splitOn_intercalate separator apart (pieces_ne_nil separator text)
  rwa [intercalate_pieces, eq_comm] at split

theorem joined_eq_intercalate (separator : String) (texts : List String) :
    joined separator texts = separator.intercalate texts := by
  fun_induction joined separator texts with
  | case1 => exact String.intercalate_nil.symm
  | case2 text => exact String.intercalate_singleton.symm
  | case3 text next rest ih => rw [ih, String.intercalate_cons_cons]

theorem cutAtFirst_eq_none_iff {separator : Char} {text : List Char} :
    cutAtFirst separator text = none ↔ separator ∉ text := by
  induction text with
  | nil => simp [cutAtFirst]
  | cons c rest ih =>
    rw [cutAtFirst]
    split
    · rename_i same
      simp [same]
    · rename_i different
      simp [ih, Ne.symm different]

theorem cutAtFirst_eq_some_iff {separator : Char} {text before after : List Char} :
    cutAtFirst separator text = some (before, after) ↔
      text = before ++ separator :: after ∧ separator ∉ before := by
  induction text generalizing before with
  | nil => simp [cutAtFirst]
  | cons c rest ih =>
    rw [cutAtFirst]
    split
    · cases before <;> simp_all [eq_comm]
    · rename_i different
      cases before with
      | nil => simp [Option.map_eq_some_iff, different]
      | cons head tail =>
        simp only [Option.map_eq_some_iff, Prod.exists, Prod.mk.injEq, List.cons.injEq]
        grind

theorem cutAtLast_eq_none_iff {separator : Char} {text : List Char} :
    cutAtLast separator text = none ↔ separator ∉ text := by
  induction text with
  | nil => simp [cutAtLast]
  | cons c rest ih => grind [cutAtLast]

theorem cutAtLast_eq_some_iff {separator : Char} {text before after : List Char} :
    cutAtLast separator text = some (before, after) ↔
      text = before ++ separator :: after ∧ separator ∉ after := by
  induction text generalizing before with
  | nil => simp [cutAtLast]
  | cons c rest ih =>
    have absent : cutAtLast separator rest = none ↔ separator ∉ rest := cutAtLast_eq_none_iff
    cases before <;> grind [cutAtLast]

end ClusterSchema.Text
