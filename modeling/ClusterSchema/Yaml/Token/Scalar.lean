import ClusterSchema.Yaml.Token

/-!
# Scalars in a YAML text

Reading the text of a quoted and of a plain scalar from a place in a YAML text.  Both may go on over
several lines, which fold as `Gap.folded` says.
-/

namespace ClusterSchema.Yaml

/-- The value of a hexadecimal digit. -/
def hexValue? (c : Char) : Option Nat :=
  if '0' ≤ c ∧ c ≤ '9' then some (c.toNat - '0'.toNat)
  else if 'a' ≤ c ∧ c ≤ 'f' then some (c.toNat - 'a'.toNat + 10)
  else if 'A' ≤ c ∧ c ≤ 'F' then some (c.toNat - 'A'.toNat + 10)
  else none

/-- The number that hexadecimal digits continue, given the number read so far. -/
def hexContinued? (soFar : Nat) : List Char → Option Nat
  | [] => some soFar
  | c :: rest => (hexValue? c).bind fun digit => hexContinued? (16 * soFar + digit) rest

/-- The character with a code point, if there is one. -/
def charOfCode? (code : Nat) : Option Char :=
  if h : code.isValidChar then some (Char.ofNatAux code h) else none

/-- The character of an escape by its letter, for the letters that stand for one character. -/
def letterEscape? (c : Char) : Option Char :=
  match c with
  | '0' => some '\x00'
  | 'a' => some '\x07'
  | 'b' => some '\x08'
  | 't' => some '\t'
  | '\t' => some '\t'
  | 'n' => some '\n'
  | 'v' => some '\x0b'
  | 'f' => some '\x0c'
  | 'r' => some '\r'
  | 'e' => some '\x1b'
  | ' ' => some ' '
  | '\x22' => some '\x22'
  | '/' => some '/'
  | '\\' => some '\\'
  | 'N' => some '\u0085'
  | '_' => some '\u00a0'
  | 'L' => some '\u2028'
  | 'P' => some '\u2029'
  | _ => none

/-- How many hexadecimal digits follow the letter of a numeric escape. -/
def numericEscape? (c : Char) : Option Nat :=
  match c with
  | 'x' => some 2
  | 'u' => some 4
  | 'U' => some 8
  | _ => none

/-- The character of the escape that starts at a backslash, and the place after it. -/
def escape (cursor : Cursor) : Except SyntaxError (Char × Cursor) :=
  match cursor.rest.drop 1 with
  | [] => .error (cursor.error "an escape has no letter")
  | c :: rest =>
    match letterEscape? c, numericEscape? c with
    | some found, _ => .ok (found, cursor.skip 2)
    | none, some width =>
      let digits := rest.take width
      if digits.length < width then .error (cursor.error "an escape has too few digits")
      else
        match (hexContinued? 0 digits).bind charOfCode? with
        | some found => .ok (found, cursor.skip (2 + width))
        | none => .error (cursor.error "an escape names no character")
    | none, none => .error (cursor.error "an escape has an unknown letter")

/-- The rest of a quoted scalar, and the place after its closing quote.  `read` holds the characters
so far, last first. -/
def quotedBody (quote : Char) :
    (fuel : Nat) → (read : List Char) → Cursor → Except SyntaxError (String × Cursor)
  | 0, _, cursor => .error (cursor.error "a quoted scalar does not end")
  | fuel + 1, read, cursor =>
    if cursor.atMarker then .error (cursor.error "a document marker stands in a quoted scalar")
    else
      match cursor.rest with
      | [] => .error (cursor.error "a quoted scalar does not end")
      | c :: rest =>
        if c == quote then
          if c == '\x27' && rest.head? == some '\x27' then
            quotedBody quote fuel (c :: read) (cursor.skip 2)
          else .ok (String.ofList read.reverse, cursor.skip 1)
        else if c == '\\' && quote == '\x22' then
          if rest.head?.any isBreak then do
            let start := (cursor.skip 1).skipBreak
            let (gap, cursor) ← Gap.read 0 (start.rest.length + 1) { broken := true } start
            quotedBody quote fuel (gap.folded ++ read) cursor
          else do
            let (found, cursor) ← escape cursor
            quotedBody quote fuel (found :: read) cursor
        else if isGap c || isBreak c then do
          let (gap, cursor) ← Gap.read 0 (cursor.rest.length + 1) {} cursor
          quotedBody quote fuel (gap.folded ++ read) cursor
        else quotedBody quote fuel (c :: read) (cursor.skip 1)

/-- A character that ends a plain scalar inside brackets. -/
def isFlowIndicator (c : Char) : Bool :=
  c == ',' || c == '[' || c == ']' || c == '\x7b' || c == '\x7d'

/-- The characters of a plain scalar up to white space or an indicator, last first. -/
def plainWord (inFlow : Bool) :
    (fuel : Nat) → (read : List Char) → Cursor → Except SyntaxError (List Char × Cursor)
  | 0, read, cursor => .ok (read, cursor)
  | fuel + 1, read, cursor =>
    match cursor.rest with
    | [] => .ok (read, cursor)
    | c :: rest =>
      if isGap c || isBreak c then .ok (read, cursor)
      else if inFlow && c == ':' && rest.head?.any (fun d => isFlowIndicator d || d == '?') then
        .error (cursor.error "a colon stands before an indicator")
      else if (c == ':' && endsWord rest) || (inFlow && isFlowIndicator c) then .ok (read, cursor)
      else plainWord inFlow fuel (c :: read) (cursor.skip 1)

/-- The rest of a plain scalar whose lines are indented by at least `indent`, the place after it and
the white space behind it, and whether that white space ends a line. -/
def plainBody (inFlow : Bool) (indent : Nat) :
    (fuel : Nat) → (read : List Char) → Gap → Cursor →
      Except SyntaxError (String × Cursor × Bool)
  | 0, read, gap, cursor => .ok (String.ofList read.reverse, cursor, gap.broken)
  | fuel + 1, read, gap, cursor =>
    if cursor.atMarker || cursor.rest.head? == some '#' then
      .ok (String.ofList read.reverse, cursor, gap.broken)
    else do
      let (word, cursor) ← plainWord inFlow (cursor.rest.length + 1) [] cursor
      let (read, gap) := if word.isEmpty then (read, gap) else (word ++ gap.folded ++ read, {})
      if cursor.rest.head?.any (fun c => isGap c || isBreak c) then
        let (gap, cursor) ← Gap.read indent (cursor.rest.length + 1) gap cursor
        if !inFlow && cursor.column < indent then
          return (String.ofList read.reverse, cursor, gap.broken)
        else plainBody inFlow indent fuel read gap cursor
      else return (String.ofList read.reverse, cursor, gap.broken)

end ClusterSchema.Yaml
