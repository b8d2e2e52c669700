/-!
# YAML tokens

The tokens of a YAML text and the position from which the next one is read.  Indentation shows as
start and end tokens, so that what follows needs no columns.  Anchors, tags and block scalars are
outside the language read here.
-/

namespace ClusterSchema.Yaml

/-- One token of a YAML text. -/
inductive Token where
  /-- A directive that names the version of the language. -/
  | version (major minor : Nat)
  | documentStart
  | documentEnd
  | blockListStart
  | blockMapStart
  | blockEnd
  | flowListStart
  | flowListEnd
  | flowMapStart
  | flowMapEnd
  | blockEntry
  | flowEntry
  | key
  | value
  /-- A scalar without quotes, whose text decides its type. -/
  | plain (text : String)
  /-- A scalar in quotes, which is a text. -/
  | quoted (text : String)
deriving DecidableEq, Repr

/-- A text that is not YAML, with the problem and where it was noticed. -/
structure SyntaxError where
  problem : String
  line : Nat
  column : Nat
deriving DecidableEq, Repr

/-- A space or a tab. -/
def isGap (c : Char) : Bool := c == ' ' || c == '\t'

/-- A character that ends a line. -/
def isBreak (c : Char) : Bool :=
  c == '\n' || c == '\r' || c.toNat == 0x85 || c.toNat == 0x2028 || c.toNat == 0x2029

/-- Whether a text ends here or goes on with white space. -/
def endsWord : List Char → Bool
  | [] => true
  | c :: _ => isGap c || isBreak c

/-- A character that a YAML text may hold. -/
def isAllowed (c : Char) : Bool :=
  let n := c.toNat
  n == 0x09 || n == 0x0A || n == 0x0D || (0x20 ≤ n && n ≤ 0x7E) || n == 0x85
    || (0xA0 ≤ n && n ≤ 0xD7FF) || (0xE000 ≤ n && n ≤ 0xFFFD) || 0x10000 ≤ n

/-- The byte order mark, which may stand at the start of a line. -/
def byteOrderMark : Char := '\ufeff'

/-- A place in a YAML text. -/
structure Cursor where
  /-- What has not been read. -/
  rest : List Char
  /-- How many bytes have been read. -/
  index : Nat := 0
  line : Nat := 0
  column : Nat := 0
deriving Repr

namespace Cursor

/-- The place after the next character, if it does not end the line. -/
def skipChar (cursor : Cursor) : Cursor :=
  match cursor.rest with
  | c :: rest => ⟨rest, cursor.index + c.utf8Size, cursor.line, cursor.column + 1⟩
  | [] => cursor

/-- The place after `count` characters of the same line. -/
def skip (cursor : Cursor) : (count : Nat) → Cursor
  | 0 => cursor
  | count + 1 => skip cursor.skipChar count

/-- The place after a line break; a carriage return and a line feed are one break. -/
def skipBreak (cursor : Cursor) : Cursor :=
  match cursor.rest with
  | '\r' :: '\n' :: rest => ⟨rest, cursor.index + 2, cursor.line + 1, 0⟩
  | c :: rest => ⟨rest, cursor.index + c.utf8Size, cursor.line + 1, 0⟩
  | [] => cursor

/-- Whether a line starts here with a document marker. -/
def atMarker (cursor : Cursor) : Bool :=
  cursor.column == 0 &&
    match cursor.rest with
    | '-' :: '-' :: '-' :: rest => endsWord rest
    | '.' :: '.' :: '.' :: rest => endsWord rest
    | _ => false

/-- The error for a problem noticed here. -/
def error (cursor : Cursor) (problem : String) : SyntaxError :=
  ⟨problem, cursor.line, cursor.column⟩

end Cursor

/-- White space inside a scalar: blanks on one line, or line breaks with the blanks around them. -/
structure Gap where
  /-- The blanks before any line break, last first. -/
  blanks : List Char := []
  /-- Whether a line break has been met. -/
  broken : Bool := false
  /-- The first line break as it is kept. -/
  first : Option Char := none
  /-- The further line breaks as they are kept, last first. -/
  more : List Char := []

namespace Gap

/-- How a line break is kept: as a line feed, unless it separates lines or paragraphs. -/
def keptBreak (c : Char) : Char :=
  if c.toNat == 0x2028 || c.toNat == 0x2029 then c else '\n'

/-- The gap with a blank added; after a line break blanks are indentation and not kept. -/
def addBlank (gap : Gap) (c : Char) : Gap :=
  if gap.broken then gap else { gap with blanks := c :: gap.blanks }

/-- The gap with a line break added. -/
def addBreak (gap : Gap) (c : Char) : Gap :=
  if gap.broken then { gap with more := keptBreak c :: gap.more }
  else { broken := true, first := some (keptBreak c) }

/-- What a gap stands for in a scalar, last character first: a single line feed folds into a
space, and of several the first is not kept. -/
def folded (gap : Gap) : List Char :=
  if gap.broken then
    match gap.first with
    | some '\n' => if gap.more.isEmpty then [' '] else gap.more
    | some c => gap.more ++ [c]
    | none => gap.more
  else gap.blanks

/-- Reads white space up to the next word.  In a plain scalar a tab may not take the place of the
indentation `indent`. -/
def read (indent : Nat) : (fuel : Nat) → Gap → Cursor → Except SyntaxError (Gap × Cursor)
  | 0, gap, cursor => .ok (gap, cursor)
  | fuel + 1, gap, cursor =>
    match cursor.rest with
    | [] => .ok (gap, cursor)
    | c :: _ =>
      if isGap c then
        if gap.broken && cursor.column < indent && c == '\t' then
          .error (cursor.error "a tab stands where indentation is expected")
        else read indent fuel (gap.addBlank c) (cursor.skip 1)
      else if isBreak c then read indent fuel (gap.addBreak c) cursor.skipBreak
      else .ok (gap, cursor)

end Gap

end ClusterSchema.Yaml
