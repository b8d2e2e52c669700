import ClusterSchema.Proofs.Sql.Names
import ClusterSchema.Sql.Regions
import Mathlib.Data.List.Forall2

/-!
# Texts that differ in what they quote

Two texts are alike when a database that scans them finds the same characters outside of quoted
regions, whatever each of them holds inside.  A text without quotes is alike to itself, regions are
alike to each other, and texts put together from alike parts are alike, provided that no part starts
with a quote right after a region: there it would be taken for a quote inside.

* `outside?_append`  a text that leaves no region open shows the same whatever follows it
* `Alike.region`     what is quoted does not matter
* `Alike.append`     parts one after the other, the second with no quote at its start
* `Alike.part`       a part with the words behind it, the usual case in a statement
* `Alike.dotted`     names of the same number of pieces, with the same pieces bare
-/

namespace ClusterSchema.Sql

/-- A text that holds no quotes. -/
def Plain (text : List Char) : Prop := ∀ c ∈ text, isQuote c = false

instance : DecidablePred Plain := List.decidableBAll (isQuote · = false)

/-- A text that does not start with a quote, and so does not go on with a region before it. -/
def Fresh (text : List Char) : Prop := ∀ c ∈ text.head?, isQuote c = false

instance : DecidablePred Fresh :=
  fun text => Option.decidableForallMem (p := (isQuote · = false)) text.head?

/-- Texts that hold the same outside of their regions, and leave none open. -/
def Alike (text₁ text₂ : List Char) : Prop :=
  ∃ plain, outside? text₁ = some plain ∧ outside? text₂ = some plain

/-- The shape of a name: how many pieces it has, and which of them are bare. -/
def nameShape (name : String) : List Bool := (Text.pieces '.' name.toList).map (· == ['*'])

variable {word text text₁ text₂ rest rest₁ rest₂ after plain : List Char}

/-- A text without quotes does not start with one. -/
theorem Plain.fresh (isPlain : Plain text) : Fresh text :=
  fun c start => isPlain c (List.mem_of_mem_head? start)

/-- Plain texts one after the other are plain. -/
theorem Plain.append (isPlain : Plain word) (others : Plain text) : Plain (word ++ text) := by
  intro c member
  rcases List.mem_append.mp member with member | member
  · exact isPlain c member
  · exact others c member

/-- Words in front keep whatever follows from starting with a quote. -/
theorem Plain.fresh_append (isPlain : Plain word) (some : word ≠ []) (rest : List Char) :
    Fresh (word ++ rest) := by
  cases word with
  | nil => exact absurd rfl some
  | cons c others => exact isPlain.fresh

/-! ## Texts one after the other -/

/-- A scan that ends outside of regions goes on with what follows as if it had started there. -/
theorem outsideFrom?_append {inside : Option Char} (isOne : ∀ quote ∈ inside, isQuote quote = true)
    (shown : outsideFrom? inside text = some plain) (fresh : Fresh after) :
    outsideFrom? inside (text ++ after) = (outside? after).map (plain ++ ·) := by
  -- along the scan of `text`, which only looks at `after` where a region closes at its very end
  fun_induction outsideFrom? inside text generalizing plain with
  | case1 =>
    obtain rfl : [] = plain := by simpa using shown
    simp [outside?]
  | case2 quote => cases shown
  -- a quote opens a region, and the scan goes on inside of it
  | case3 c rest opens ih =>
    simp only [List.cons_append, outsideFrom?, opens, if_true]
    exact ih (by simpa using opens) shown
  | case4 c rest stays ih =>
    obtain ⟨later, held, rfl⟩ := Option.map_eq_some_iff.mp shown
    simp only [List.cons_append, outsideFrom?, stays, Bool.false_eq_true, if_false,
      ih (by simp) held, Option.map_map]
    rfl
  | case5 quote =>
    -- the region closes there, since what follows does not double its last quote
    obtain rfl : [] = plain := by simpa using shown
    cases after with
    | nil => simp [outsideFrom?, outside?]
    | cons d rest =>
      have notQuote := fresh d (by simp)
      have different : d ≠ quote := by
        rintro rfl
        rw [isOne d (by simp)] at notQuote
        cases notQuote
      simp [outsideFrom?, outside?, different]
  | case6 quote c different => cases shown
  -- a doubled quote stays inside
  | case7 quote rest ih =>
    simp only [List.cons_append, outsideFrom?, if_true]
    exact ih isOne shown
  | case8 quote d rest different ih =>
    simp only [List.cons_append, outsideFrom?, if_true, different, if_false] at ih ⊢
    exact ih (by simp) shown
  | case9 quote c d rest different ih =>
    simp only [List.cons_append, outsideFrom?, different, if_false] at ih ⊢
    exact ih isOne shown

/-- A text that leaves no region open shows the same whatever fresh text follows it. -/
theorem outside?_append (shown : outside? text = some plain) (fresh : Fresh after) :
    outside? (text ++ after) = (outside? after).map (plain ++ ·) :=
  outsideFrom?_append (by simp) shown fresh

/-- All of a plain text is outside, whatever follows it. -/
theorem Plain.outside?_append (isPlain : Plain word) (after : List Char) :
    outside? (word ++ after) = (outside? after).map (word ++ ·) := by
  induction word with
  | nil => simp
  | cons c rest ih =>
    have notQuote : isQuote c = false := isPlain c (by simp)
    have others := ih fun d member => isPlain d (List.mem_cons_of_mem c member)
    simp only [outside?, List.cons_append, outsideFrom?, notQuote] at others ⊢
    rw [others]
    cases outsideFrom? none after <;> rfl

/-! ## Texts that are alike -/

namespace Alike

/-- A text that leaves no region open is alike to itself. -/
theorem refl_of_isSome (closes : (outside? text).isSome) : Alike text text := by
  obtain ⟨plain, shown⟩ := Option.isSome_iff_exists.mp closes
  exact ⟨plain, shown, shown⟩

/-- A text without quotes is alike to itself. -/
theorem of_plain (isPlain : Plain word) : Alike word word := by
  have shown := isPlain.outside?_append []
  rw [List.append_nil] at shown
  exact refl_of_isSome (by rw [shown]; rfl)

/-- What stands between quotes does not matter. -/
theorem region {quote : Char} (isOne : isQuote quote = true) (text₁ text₂ : List Char) :
    Alike (region quote text₁) (Sql.region quote text₂) := by
  have shown (text) : outside? (Sql.region quote text) = some [] := by
    simpa [outside?, outsideFrom?] using outside?_region quote text [] isOne (by simp)
  exact ⟨[], shown text₁, shown text₂⟩

/-- Plain words may stand in front of alike texts. -/
theorem behind (isPlain : Plain word) (same : Alike text₁ text₂) :
    Alike (word ++ text₁) (word ++ text₂) := by
  obtain ⟨plain, shown₁, shown₂⟩ := same
  refine ⟨word ++ plain, ?_, ?_⟩
  · rw [isPlain.outside?_append, shown₁, Option.map_some]
  · rw [isPlain.outside?_append, shown₂, Option.map_some]

/-- Alike texts may follow each other, as long as neither follower starts with a quote. -/
theorem append (same : Alike text₁ text₂) (later : Alike rest₁ rest₂) (fresh₁ : Fresh rest₁)
    (fresh₂ : Fresh rest₂) : Alike (text₁ ++ rest₁) (text₂ ++ rest₂) := by
  obtain ⟨plain, shown₁, shown₂⟩ := same
  obtain ⟨others, later₁, later₂⟩ := later
  refine ⟨plain ++ others, ?_, ?_⟩
  · rw [outside?_append shown₁ fresh₁, later₁, Option.map_some]
  · rw [outside?_append shown₂ fresh₂, later₂, Option.map_some]

/-- A text is alike to itself if its two parts are. -/
theorem refl_append {first second : String} (same : Alike first.toList first.toList)
    (later : Alike second.toList second.toList) (fresh : Fresh second.toList) :
    Alike (first ++ second).toList (first ++ second).toList := by
  rw [String.toList_append]
  exact same.append later fresh fresh

/-- The usual case in a statement: words separate two alike parts. -/
theorem part (same : Alike text₁ text₂) (isPlain : Plain word) (some : word ≠ [])
    (later : Alike rest₁ rest₂) : Alike (text₁ ++ (word ++ rest₁)) (text₂ ++ (word ++ rest₂)) :=
  same.append (later.behind isPlain) (isPlain.fresh_append some _) (isPlain.fresh_append some _)

/-- A piece is bare or quoted in both texts. -/
theorem segment {piece₁ piece₂ : List Char} (bare : (piece₁ == ['*']) = (piece₂ == ['*'])) :
    Alike (segment piece₁) (Sql.segment piece₂) := by
  -- a bare star shows as it is, and anything else is a region
  by_cases star : piece₁ = ['*']
  · have also : piece₂ = ['*'] := by simpa [star] using bare
    rw [star, also]
    exact of_plain (by decide)
  · have also : piece₂ ≠ ['*'] := by simpa [star] using bare
    simp only [Sql.segment, star, also, if_false]
    exact region (by decide) piece₁ piece₂

/-- Names of one shape are alike, piece by piece. -/
theorem dotted {pieces₁ pieces₂ : List (List Char)}
    (bare : pieces₁.map (· == ['*']) = pieces₂.map (· == ['*'])) :
    Alike (dotted pieces₁) (Sql.dotted pieces₂) := by
  induction pieces₁ generalizing pieces₂ with
  | nil =>
    obtain rfl : pieces₂ = [] := by simpa using bare
    exact of_plain (by decide)
  | cons piece₁ others₁ ih =>
    cases pieces₂ with
    | nil => simp at bare
    | cons piece₂ others₂ =>
      simp only [List.map_cons, List.cons.injEq] at bare
      -- either both end here or both go on with a dot
      cases others₁ with
      | nil =>
        obtain rfl : others₂ = [] := by simpa using bare.2
        exact segment bare.1
      | cons next₁ later₁ =>
        cases others₂ with
        | nil => simp at bare
        | cons next₂ later₂ =>
          exact (segment bare.1).part (by decide : Plain ['.']) (by simp) (ih bare.2)

/-- Lists of alike texts, with the same plain text between neighbours. -/
theorem joined {separator : String} (isPlain : Plain separator.toList) (some : separator ≠ "")
    {texts₁ texts₂ : List String}
    (same : List.Forall₂ (fun text₁ text₂ => Alike text₁.toList text₂.toList) texts₁ texts₂) :
    Alike (Text.joined separator texts₁).toList (Text.joined separator texts₂).toList := by
  induction same with
  | nil => exact of_plain (by simp [Text.joined, Plain])
  | @cons text₁ text₂ others₁ others₂ head tail ih =>
    cases tail with
    | nil => exact head
    | cons next later =>
      simp only [Text.joined, String.toList_append, List.append_assoc] at ih ⊢
      exact head.part isPlain (by simpa using some) ih

/-- Names of one shape are alike. -/
theorem name {name₁ name₂ : String} (shape : nameShape name₁ = nameShape name₂) :
    Alike (name name₁).toList (Sql.name name₂).toList := by
  rw [toList_name, toList_name]
  exact dotted shape

/-- Names of the same shapes, each written in a way that makes alike texts of one shape. -/
theorem joined_map {separator : String} (isPlain : Plain separator.toList) (some : separator ≠ "")
    {write₁ write₂ : String → String}
    (each : ∀ name₁ name₂, nameShape name₁ = nameShape name₂ →
      Alike (write₁ name₁).toList (write₂ name₂).toList)
    {names₁ names₂ : List String} (shapes : names₁.map nameShape = names₂.map nameShape) :
    Alike (Text.joined separator (names₁.map write₁)).toList
      (Text.joined separator (names₂.map write₂)).toList := by
  apply joined isPlain some
  -- the shapes are equal place by place
  rw [← List.forall₂_eq_eq_eq, List.forall₂_map_left_iff, List.forall₂_map_right_iff] at shapes
  rw [List.forall₂_map_left_iff, List.forall₂_map_right_iff]
  exact shapes.imp fun name₁ name₂ shape => each name₁ name₂ shape

/-- So are lists of such names. -/
theorem nameList {names₁ names₂ : List String}
    (shapes : names₁.map nameShape = names₂.map nameShape) :
    Alike (nameList names₁).toList (Sql.nameList names₂).toList :=
  joined_map (by decide) (by decide) (fun _ _ shape => name shape) shapes

/-- Text constants are alike, whatever they say. -/
theorem literal (text₁ text₂ : String) :
    Alike (literal text₁).toList (Sql.literal text₂).toList := by
  rw [toList_literal, toList_literal]
  exact region (by decide) _ _

end Alike

end ClusterSchema.Sql
