import ClusterSchema.Text.Pieces

/-!
# Quoted names and texts in SQL

A quoted region opens and closes with its quote character, and a quote character inside it is
written twice.  Names are quoted with `"`, piece by piece between dots; the piece `*` stands bare
because it names every column.  Literal texts are quoted with `'`.
-/

namespace ClusterSchema.Sql

/-- The quote around a name. -/
def nameQuote : Char := '\x22'

/-- The quote around a literal text. -/
def textQuote : Char := '\x27'

/-- A text with every `quote` in it written twice. -/
def doubled (quote : Char) : List Char → List Char
  | [] => []
  | c :: rest => if c = quote then quote :: quote :: doubled quote rest else c :: doubled quote rest

/-- A quoted region: the text between two quotes, inner quotes doubled. -/
def region (quote : Char) (text : List Char) : List Char :=
  quote :: (doubled quote text ++ [quote])

/-- One piece of a name, quoted unless it is `*`. -/
def segment (piece : List Char) : List Char :=
  if piece = ['*'] then piece else region nameQuote piece

/-- Quoted pieces with dots between them. -/
def dotted : List (List Char) → List Char
  | [] => []
  | [piece] => segment piece
  | piece :: next :: rest => segment piece ++ '.' :: dotted (next :: rest)

/-- A name in which dots separate pieces (`table.column`), each piece quoted by itself. -/
def name (text : String) : String :=
  String.ofList (dotted (Text.pieces '.' text.toList))

/-- A name that is one piece, whatever dots it holds. -/
def singleName (text : String) : String :=
  String.ofList (segment text.toList)

/-- A literal text. -/
def literal (text : String) : String :=
  String.ofList (region textQuote text.toList)

/-- Names in the order given, separated by a comma and a space. -/
def nameList (names : List String) : String :=
  Text.joined ", " (names.map name)

end ClusterSchema.Sql
