import ClusterSchema.Yaml.Token.Scan

/-!
# YAML nodes

The tree of a YAML text.  Scalars keep their text and whether it was quoted, because only the place
where a scalar is used tells whether its text or its type counts.  A text holds one document at
most, and an empty one holds none.  Lists and maps may be nested up to `depthLimit` deep.
-/

namespace ClusterSchema.Yaml

/-- A node of a YAML document. -/
inductive Node where
  | plain (text : String)
  | quoted (text : String)
  | list (items : List Node)
  | map (entries : List (Node × Node))
deriving Repr, Inhabited

namespace Node

/-- The node that stands for a value that is left out. -/
def absent : Node := plain ""

/-- Whether a list item or a block value is left out before these tokens. -/
def itemAbsent : List Token → Bool
  | .blockEntry :: _ | .blockEnd :: _ => true
  | _ => false

/-- Whether an item of a list without indentation is left out before these tokens. -/
def compactItemAbsent : List Token → Bool
  | .blockEntry :: _ | .key :: _ | .value :: _ | .blockEnd :: _ => true
  | _ => false

/-- Whether a key or a value of a block map is left out before these tokens. -/
def entryAbsent : List Token → Bool
  | .key :: _ | .value :: _ | .blockEnd :: _ => true
  | _ => false

/-- Whether a key or a value between brackets is left out before these tokens. -/
def flowAbsent : List Token → Bool
  | .value :: _ | .flowEntry :: _ | .flowListEnd :: _ | .flowMapEnd :: _ => true
  | _ => false

/-- The tokens after a key that is left out in a list in brackets.  The token that shows that it is
left out goes with it, so that a colon has to be written twice. -/
def afterAbsentKey? : List Token → Option (List Token)
  | .value :: rest | .flowEntry :: rest | .flowListEnd :: rest => some rest
  | _ => none

mutual

/-- The node at the start of the tokens.  Blocks may start only where `block` says so, and a list
without indentation only where `compact` does. -/
def take? : (fuel : Nat) → (block compact : Bool) → List Token → Option (Node × List Token)
  | 0, _, _, _ => none
  | fuel + 1, block, compact, tokens =>
    match tokens with
    | .plain text :: rest => some (.plain text, rest)
    | .quoted text :: rest => some (.quoted text, rest)
    | .flowListStart :: rest => do
      let (items, rest) ← flowItems? fuel true rest
      return (.list items, rest)
    | .flowMapStart :: rest => do
      let (entries, rest) ← flowEntries? fuel true rest
      return (.map entries, rest)
    | .blockEntry :: _ =>
      if compact then do
        let (items, rest) ← compactItems? fuel tokens
        return (.list items, rest)
      else none
    | .blockListStart :: rest =>
      if block then do
        let (items, rest) ← blockItems? fuel rest
        return (.list items, rest)
      else none
    | .blockMapStart :: rest =>
      if block then do
        let (entries, rest) ← blockEntries? fuel rest
        return (.map entries, rest)
      else none
    | _ => none

/-- The items of an indented list, after its start. -/
def blockItems? : (fuel : Nat) → List Token → Option (List Node × List Token)
  | fuel + 1, .blockEntry :: rest => do
    let (item, rest) ← if itemAbsent rest then some (absent, rest) else take? fuel true false rest
    let (items, rest) ← blockItems? fuel rest
    return (item :: items, rest)
  | _ + 1, .blockEnd :: rest => some ([], rest)
  | _, _ => none

/-- The items of a list without indentation of its own. -/
def compactItems? : (fuel : Nat) → List Token → Option (List Node × List Token)
  | fuel + 1, .blockEntry :: rest => do
    let (item, rest) ←
      if compactItemAbsent rest then some (absent, rest) else take? fuel true false rest
    let (items, rest) ← compactItems? fuel rest
    return (item :: items, rest)
  | _ + 1, tokens => some ([], tokens)
  | 0, _ => none

/-- The entries of a block map, after its start. -/
def blockEntries? : (fuel : Nat) → List Token → Option (List (Node × Node) × List Token)
  | fuel + 1, .key :: rest => do
    let (key, rest) ← if entryAbsent rest then some (absent, rest) else take? fuel true true rest
    let (value, rest) ← blockValue? fuel rest
    let (entries, rest) ← blockEntries? fuel rest
    return ((key, value) :: entries, rest)
  | _ + 1, .blockEnd :: rest => some ([], rest)
  | _, _ => none

/-- The value after a key of a block map. -/
def blockValue? : (fuel : Nat) → List Token → Option (Node × List Token)
  | fuel + 1, .value :: rest =>
    if entryAbsent rest then some (absent, rest) else take? fuel true true rest
  | _ + 1, tokens => some (absent, tokens)
  | 0, _ => none

/-- The items of a list in brackets, after its opening bracket or after an item.  A key makes its
entry a map of one entry. -/
def flowItems? : (fuel : Nat) → (first : Bool) → List Token → Option (List Node × List Token)
  | 0, _, _ => none
  | fuel + 1, first, tokens =>
    match tokens with
    | .flowListEnd :: rest => some ([], rest)
    | _ => do
      let rest ← if first then some tokens else afterComma? tokens
      match rest with
      | .flowListEnd :: rest => some ([], rest)
      | .key :: rest => do
        let (key, rest) ←
          match afterAbsentKey? rest with
          | some rest => some (absent, rest)
          | none => take? fuel false false rest
        let (value, rest) ← flowValue? fuel rest
        let (items, rest) ← flowItems? fuel false rest
        return (.map [(key, value)] :: items, rest)
      | _ => do
        let (item, rest) ← take? fuel false false rest
        let (items, rest) ← flowItems? fuel false rest
        return (item :: items, rest)

/-- The entries of a map in braces, after its opening brace or after an entry. -/
def flowEntries? : (fuel : Nat) → (first : Bool) → List Token →
    Option (List (Node × Node) × List Token)
  | 0, _, _ => none
  | fuel + 1, first, tokens =>
    match tokens with
    | .flowMapEnd :: rest => some ([], rest)
    | _ => do
      let rest ← if first then some tokens else afterComma? tokens
      match rest with
      | .flowMapEnd :: rest => some ([], rest)
      | .key :: rest => do
        let (key, rest) ←
          if flowAbsent rest then some (absent, rest) else take? fuel false false rest
        let (value, rest) ← flowValue? fuel rest
        let (entries, rest) ← flowEntries? fuel false rest
        return ((key, value) :: entries, rest)
      | _ => do
        let (key, rest) ← take? fuel false false rest
        let (entries, rest) ← flowEntries? fuel false rest
        return ((key, absent) :: entries, rest)

/-- The value after a key between brackets. -/
def flowValue? : (fuel : Nat) → List Token → Option (Node × List Token)
  | fuel + 1, .value :: rest =>
    if flowAbsent rest then some (absent, rest) else take? fuel false false rest
  | _ + 1, tokens => some (absent, tokens)
  | 0, _ => none

/-- The tokens after a comma. -/
def afterComma? : List Token → Option (List Token)
  | .flowEntry :: rest => some rest
  | _ => none

end

/-- Whether texts of a version can be read. -/
def readsVersion (major minor : Nat) : Bool := major == 1 && (minor == 1 || minor == 2)

/-- The tokens after a directive; its version has to be one that can be read, and the start of the
document has to follow. -/
def afterVersion? : List Token → Option (List Token)
  | .version major minor :: .documentStart :: rest =>
    if readsVersion major minor then some (.documentStart :: rest) else none
  | .version _ _ :: _ => none
  | tokens => some tokens

/-- The root of the only document of the tokens: none if there is no document, and a failure if the
tokens are no document or more than one. -/
def ofTokens? (tokens : List Token) : Option (Option Node) :=
  match tokens with
  | [] => some none
  | _ => do
    let fuel := 3 * tokens.length + 3
    let tokens ← afterVersion? tokens
    let (node, rest) ←
      match tokens with
      | .documentStart :: rest =>
        match rest with
        | [] | .documentStart :: _ | .documentEnd :: _ => some (absent, rest)
        | _ => take? fuel true false rest
      | _ => take? fuel true false tokens
    if rest.all (· == .documentEnd) then some (some node) else none

mutual

/-- How deep lists and maps are nested in a node. -/
def depth : Node → Nat
  | plain _ | quoted _ => 0
  | list items => itemsDepth items + 1
  | map entries => entriesDepth entries + 1

/-- How deep lists and maps are nested in list items. -/
def itemsDepth : List Node → Nat
  | [] => 0
  | item :: rest => max item.depth (itemsDepth rest)

/-- How deep lists and maps are nested in map entries, on either side of the colon. -/
def entriesDepth : List (Node × Node) → Nat
  | [] => 0
  | (key, value) :: rest => max (max key.depth value.depth) (entriesDepth rest)

end

/-- How deep lists and maps may be nested. -/
def depthLimit : Nat := 128

/-- The root of the document in a YAML text, none if the text holds no document. -/
def read (text : String) : Except SyntaxError (Option Node) := do
  let tokens ← Token.scan text
  match ofTokens? tokens with
  | some (some root) =>
    if root.depth ≤ depthLimit then return some root
    else .error ⟨"lists and maps are nested too deep", 0, 0⟩
  | some none => return none
  | none => .error ⟨"the tokens do not form one document", 0, 0⟩

end Node

end ClusterSchema.Yaml
