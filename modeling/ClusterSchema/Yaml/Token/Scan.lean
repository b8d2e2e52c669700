import ClusterSchema.Text.Numeral
import ClusterSchema.Yaml.Token.Scalar

/-!
# Scanning a YAML text

`Token.scan` takes a YAML text to its tokens.  A key is only known as a key when its colon is met,
so the scanner keeps for every bracket level the place where a key may have started, and puts the
key token there afterwards.  Indentation opens and closes blocks outside brackets.
-/

namespace ClusterSchema.Yaml

/-- A place where a key may have started. -/
structure KeyStart where
  /-- Whether nothing but a key may stand there. -/
  required : Bool
  /-- The number of tokens before it. -/
  token : Nat
  index : Nat
  line : Nat
  column : Nat

/-- The state of scanning. -/
structure Scanner where
  cursor : Cursor
  tokens : Array Token := #[]
  /-- The column of the innermost block, `-1` outside all blocks. -/
  indent : Int := -1
  /-- The columns of the blocks around it, innermost first. -/
  outerIndents : List Int := []
  /-- Whether a key may start here. -/
  keyAllowed : Bool := true
  /-- Where a key may have started within the innermost brackets. -/
  key : Option KeyStart := none
  /-- The same for the brackets around them, innermost first. -/
  outerKeys : List (Option KeyStart) := []

namespace Scanner

/-- Whether the place is inside brackets. -/
def inFlow (s : Scanner) : Bool := !s.outerKeys.isEmpty

/-- The error for a problem noticed at the current place. -/
def fail {α : Type} (s : Scanner) (problem : String) : Except SyntaxError α :=
  .error (s.cursor.error problem)

/-- The scanner with a token added. -/
def emit (s : Scanner) (token : Token) : Scanner := { s with tokens := s.tokens.push token }

/-- The scanner with `count` characters of the line read. -/
def skip (s : Scanner) (count : Nat) : Scanner := { s with cursor := s.cursor.skip count }

/-- Skips blanks, comments, line breaks and a byte order mark at the start of a line, which takes up
a column.  After a line break outside brackets a key may start; tabs count as blanks only where none
may. -/
def skipToToken : (fuel : Nat) → Scanner → Scanner
  | 0, s => s
  | fuel + 1, s =>
    match s.cursor.rest with
    | [] => s
    | c :: rest =>
      if c == ' ' || (c == '\t' && (s.inFlow || !s.keyAllowed))
          || (c == byteOrderMark && s.cursor.column == 0) then
        skipToToken fuel (s.skip 1)
      else if c == '#' then
        skipToToken fuel (s.skip (1 + (rest.takeWhile fun d => !isBreak d).length))
      else if isBreak c then
        skipToToken fuel
          { s with cursor := s.cursor.skipBreak, keyAllowed := s.keyAllowed || !s.inFlow }
      else s

/-- How many bytes a key may take up, with the white space between it and its colon. -/
def keyLimit : Nat := 1024

/-- A key start that is still good: on the current line and not far back. -/
def freshKey (s : Scanner) (key : Option KeyStart) : Except SyntaxError (Option KeyStart) :=
  match key with
  | none => .ok none
  | some start =>
    if start.line < s.cursor.line || start.index + keyLimit < s.cursor.index then
      if start.required then s.fail "a key has no colon" else .ok none
    else .ok (some start)

/-- Forgets the key starts that are no longer good. -/
def dropStaleKeys (s : Scanner) : Except SyntaxError Scanner := do
  let key ← s.freshKey s.key
  let outerKeys ← s.outerKeys.mapM s.freshKey
  return { s with key, outerKeys }

/-- Forgets the key start of the innermost brackets. -/
def dropKey (s : Scanner) : Except SyntaxError Scanner :=
  match s.key with
  | some start =>
    if start.required then s.fail "a key has no colon" else .ok { s with key := none }
  | none => .ok s

/-- Remembers that a key may start here. -/
def markKey (s : Scanner) : Except SyntaxError Scanner :=
  if s.keyAllowed then do
    let required := !s.inFlow && s.indent == (s.cursor.column : Int)
    let s ← s.dropKey
    return { s with
      key := some ⟨required, s.tokens.size, s.cursor.index, s.cursor.line, s.cursor.column⟩ }
  else .ok s

/-- Opens a block at a column that is deeper than the innermost block, with its start token put
before the token of the given number. -/
def openBlock (s : Scanner) (column token : Nat) (start : Token) : Scanner :=
  if !s.inFlow && s.indent < (column : Int) then
    { s with
      outerIndents := s.indent :: s.outerIndents
      indent := column
      tokens := s.tokens.insertIdxIfInBounds token start }
  else s

/-- Closes the blocks that are deeper than a column. -/
def closeBlocks (column : Int) : (indents : List Int) → Scanner → Scanner
  | outer :: rest, s =>
    if column < s.indent then
      closeBlocks column rest { s.emit .blockEnd with indent := outer, outerIndents := rest }
    else s
  | [], s => s

/-- Closes blocks by the current column; brackets ignore indentation. -/
def unindent (s : Scanner) (column : Int) : Scanner :=
  if s.inFlow then s else closeBlocks column s.outerIndents s

/-- Reads a document marker. -/
def marker (s : Scanner) (token : Token) : Except SyntaxError Scanner := do
  let s ← (s.unindent (-1)).dropKey
  return ({ s with keyAllowed := false }.skip 3).emit token

/-- How many digits each part of a version may have. -/
def versionDigits : Nat := 9

/-- Reads the number at the start of a text, and what follows it. -/
def versionPart? (text : List Char) : Option (Nat × List Char) :=
  let digits := text.takeWhile Char.isDigit
  if digits.length ≤ versionDigits then
    (Text.Numeral.digits? digits).map fun n => (n, text.drop digits.length)
  else none

/-- The version that the text after a percent sign names, if nothing but blanks and a comment follow
it on the line. -/
def version? (line : List Char) : Option (Nat × Nat) := do
  let rest ← if line.take 4 = ['Y', 'A', 'M', 'L'] then some (line.drop 4) else none
  let numbers ← if rest.head?.any isGap then some (rest.dropWhile isGap) else none
  let (major, rest) ← versionPart? numbers
  let rest ← if rest.head? = some '.' then some (rest.drop 1) else none
  let (minor, rest) ← versionPart? rest
  match rest.dropWhile isGap with
  | [] | '#' :: _ => return (major, minor)
  | _ => none

/-- Reads a directive, which has to name the version of the language. -/
def directive (s : Scanner) : Except SyntaxError Scanner := do
  let s ← (s.unindent (-1)).dropKey
  let line := (s.cursor.rest.takeWhile fun c => !isBreak c).drop 1
  match version? line with
  | some (major, minor) =>
    return ({ s with keyAllowed := false }.skip (line.length + 1)).emit (.version major minor)
  | none => s.fail "a directive does not name a version"

/-- Reads an opening bracket. -/
def openFlow (s : Scanner) (token : Token) : Except SyntaxError Scanner := do
  let s ← s.markKey
  return ({ s with outerKeys := s.key :: s.outerKeys, key := none, keyAllowed := true }.skip 1).emit
    token

/-- Reads a closing bracket. -/
def closeFlow (s : Scanner) (token : Token) : Except SyntaxError Scanner := do
  let s ← s.dropKey
  let s :=
    match s.outerKeys with
    | key :: outer => { s with key := key, outerKeys := outer }
    | [] => s
  return ({ s with keyAllowed := false }.skip 1).emit token

/-- Reads a comma between brackets. -/
def comma (s : Scanner) : Except SyntaxError Scanner := do
  let s ← s.dropKey
  return ({ s with keyAllowed := true }.skip 1).emit .flowEntry

/-- Reads the dash of a list item. -/
def dash (s : Scanner) : Except SyntaxError Scanner :=
  if !s.inFlow && !s.keyAllowed then s.fail "a list item may not start here"
  else do
    let s := s.openBlock s.cursor.column s.tokens.size .blockListStart
    let s ← s.dropKey
    return ({ s with keyAllowed := true }.skip 1).emit .blockEntry

/-- Reads the question mark of an explicit key. -/
def explicitKey (s : Scanner) : Except SyntaxError Scanner :=
  if !s.inFlow && !s.keyAllowed then s.fail "a key may not start here"
  else do
    let s := s.openBlock s.cursor.column s.tokens.size .blockMapStart
    let s ← s.dropKey
    return ({ s with keyAllowed := !s.inFlow }.skip 1).emit .key

/-- Reads the colon before a value.  If a key has started, its token goes where it started. -/
def colon (s : Scanner) : Except SyntaxError Scanner :=
  match s.key with
  | some start =>
    let s := { s with tokens := s.tokens.insertIdxIfInBounds start.token .key }
    let s := s.openBlock start.column start.token .blockMapStart
    .ok (({ s with key := none, keyAllowed := false }.skip 1).emit .value)
  | none =>
    if !s.inFlow && !s.keyAllowed then s.fail "a value may not start here"
    else
      let s := s.openBlock s.cursor.column s.tokens.size .blockMapStart
      .ok (({ s with keyAllowed := !s.inFlow }.skip 1).emit .value)

/-- Reads a scalar in quotes. -/
def quotedScalar (s : Scanner) (quote : Char) : Except SyntaxError Scanner := do
  let s ← s.markKey
  let start := s.cursor.skip 1
  let (text, cursor) ← quotedBody quote (start.rest.length + 1) [] start
  return { s with cursor, keyAllowed := false }.emit (.quoted text)

/-- Reads a scalar without quotes. -/
def plainScalar (s : Scanner) : Except SyntaxError Scanner := do
  let s ← s.markKey
  let indent := (s.indent + 1).toNat
  let (text, cursor, endsLine) ←
    plainBody s.inFlow indent (s.cursor.rest.length + 1) [] {} s.cursor
  return { s with cursor, keyAllowed := endsLine }.emit (.plain text)

/-- A character that may not start a plain scalar. -/
def isIndicator (c : Char) : Bool :=
  isFlowIndicator c || c == '-' || c == '?' || c == ':' || c == '#' || c == '&' || c == '*'
    || c == '!' || c == '|' || c == '>' || c == '\x27' || c == '\x22' || c == '%' || c == '@'
    || c == '\x60'

/-- Whether a plain scalar may start here: not with a tab or an indicator, apart from a dash,
question mark or colon that the next character makes part of a word. -/
def startsPlain (s : Scanner) (c : Char) (rest : List Char) : Bool :=
  !(isIndicator c || isGap c)
    || (c == '-' && !(rest.head?.any isGap))
    || (!s.inFlow && (c == '?' || c == ':') && !endsWord rest)

/-- Reads the token that starts with `c`. -/
def token (s : Scanner) (c : Char) (rest : List Char) : Except SyntaxError Scanner :=
  if s.cursor.atMarker then s.marker (if c == '-' then .documentStart else .documentEnd)
  else if c == '%' && s.cursor.column == 0 then s.directive
  else if c == '[' then s.openFlow .flowListStart
  else if c == '\x7b' then s.openFlow .flowMapStart
  else if c == ']' then s.closeFlow .flowListEnd
  else if c == '\x7d' then s.closeFlow .flowMapEnd
  else if c == ',' then s.comma
  else if c == '-' && endsWord rest then s.dash
  else if c == '?' && (s.inFlow || endsWord rest) then s.explicitKey
  else if c == ':' && (s.inFlow || endsWord rest) then s.colon
  else if c == '\x27' || c == '\x22' then s.quotedScalar c
  else if s.startsPlain c rest then s.plainScalar
  else s.fail "no token starts here"

/-- Reads tokens to the end of the text. -/
def run : (fuel : Nat) → Scanner → Except SyntaxError Scanner
  | 0, s => .ok s
  | fuel + 1, s => do
    let s ← (skipToToken (s.cursor.rest.length + 1) s).dropStaleKeys
    let s := s.unindent s.cursor.column
    match s.cursor.rest with
    | [] => (s.unindent (-1)).dropKey
    | c :: rest => do
      let s ← s.token c rest
      run fuel s

end Scanner

/-- The tokens of a YAML text. -/
def Token.scan (text : String) : Except SyntaxError (List Token) := do
  let chars := text.toList
  if chars.all isAllowed then
    let s ← Scanner.run (chars.length + 1) { cursor := { rest := chars } }
    return s.tokens.toList
  else .error ⟨"the text holds a control character", 0, 0⟩

end ClusterSchema.Yaml
