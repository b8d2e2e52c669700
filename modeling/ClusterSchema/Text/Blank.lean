/-!
# White space

The characters that Unicode gives the property `White_Space`, and `trim`, which removes them from
both ends of a text.  Names, options and filters that people type are compared after trimming, so
the class has to be the whole property and not its ASCII part.
-/

namespace ClusterSchema.Text

/-- A character with the Unicode property `White_Space`. -/
def isBlank (c : Char) : Bool :=
  let n := c.toNat
  (9 ≤ n && n ≤ 13) || n == 0x20 || n == 0x85 || n == 0xA0 || n == 0x1680
    || (0x2000 ≤ n && n ≤ 0x200A) || n == 0x2028 || n == 0x2029 || n == 0x202F
    || n == 0x205F || n == 0x3000

/-- The characters of a text without the blanks at its end. -/
def trimEndChars : List Char → List Char
  | [] => []
  | c :: rest =>
    match trimEndChars rest with
    | [] => if isBlank c then [] else [c]
    | d :: kept => c :: d :: kept

/-- The characters of a text without the blanks at its start and at its end. -/
def trimChars (text : List Char) : List Char :=
  trimEndChars (text.dropWhile isBlank)

/-- A text without the blanks at its start and at its end. -/
def trim (text : String) : String :=
  String.ofList (trimChars text.toList)

/-- A text with `A` to `Z` written small and everything else unchanged. -/
def asciiLower (text : String) : String :=
  text.map Char.toLower

end ClusterSchema.Text
