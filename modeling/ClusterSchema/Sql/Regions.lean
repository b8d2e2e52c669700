import ClusterSchema.Sql.Quoting

/-!
# Quoted regions of a statement

How a database tells names and literal texts from the statement around them: from left to right, a
quote opens a region, the same quote closes it unless it is doubled, and everything outside of
regions is the statement itself.

* `outside?_region`  a region leaves nothing outside, whatever it holds
-/

namespace ClusterSchema.Sql

/-- Whether a character opens a region. -/
def isQuote (c : Char) : Bool := c == nameQuote || c == textQuote

/-- What a text holds outside of quoted regions, if it ends outside of them; `inside` is the quote
of the region in which the text starts. -/
def outsideFrom? : (inside : Option Char) → List Char → Option (List Char)
  | none, [] => some []
  | some _, [] => none
  | none, c :: rest =>
    if isQuote c then outsideFrom? (some c) rest
    else (outsideFrom? none rest).map (c :: ·)
  | some quote, [c] => if c = quote then some [] else none
  | some quote, c :: d :: rest =>
    if c = quote then
      if d = quote then outsideFrom? (some quote) rest
      else outsideFrom? none (d :: rest)
    else outsideFrom? (some quote) (d :: rest)

/-- What a statement holds outside of quoted regions, if none is left open. -/
def outside? (text : List Char) : Option (List Char) := outsideFrom? none text

theorem outsideFrom?_doubled (quote : Char) (text after : List Char)
    (stops : after.head? ≠ some quote) :
    outsideFrom? (some quote) (doubled quote text ++ quote :: after) = outside? after := by
  induction text with
  | nil =>
    cases after with
    | nil => simp [doubled, outside?, outsideFrom?]
    | cons d rest =>
      have different : d ≠ quote := by simpa using stops
      simp [doubled, outside?, outsideFrom?, different]
  | cons c rest ih =>
    unfold doubled
    split
    · simp [outsideFrom?, ih]
    · rename_i different
      -- what is left after `c` is never empty, so the scan looks at two characters
      obtain ⟨d, later, shape⟩ : ∃ d later, doubled quote rest ++ quote :: after = d :: later :=
        List.exists_cons_of_ne_nil (by simp)
      rw [List.cons_append, shape, outsideFrom?, if_neg different, ← shape, ih]

theorem outside?_region (quote : Char) (text after : List Char) (isOne : isQuote quote = true)
    (stops : after.head? ≠ some quote) :
    outside? (region quote text ++ after) = outside? after := by
  have opened := outsideFrom?_doubled quote text after stops
  simp only [outside?] at opened ⊢
  simp [region, outsideFrom?, isOne, opened]

end ClusterSchema.Sql
