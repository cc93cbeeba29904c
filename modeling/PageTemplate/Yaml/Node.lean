import PageTemplate.Yaml.Token

/-!
# Nodes of YAML

The tree that the tokens of a text stand for. A text holds at most one document.

## Main definitions

* `PageTemplate.Yaml.Node` — a scalar, a list or a mapping.
* `PageTemplate.Yaml.Node.empty` — what stands where nothing is written.
* `PageTemplate.Yaml.read` — the document of a text.
-/

namespace PageTemplate.Yaml

/-- A scalar, plain or not; a list; or a mapping, whose keys are nodes too. -/
inductive Node where
  | scalar (text : Text) (plain : Bool)
  | list (items : List Node)
  | mapping (pairs : List (Node × Node))

namespace Node

/-- What stands where nothing is written. -/
def empty : Node := .scalar [] true

/-! ### From tokens to nodes

Every function takes a bound on the number of steps first, and gives the tokens that are left. -/

mutual

/-- A node. Indented collections are allowed if `block` holds, and if `entries` holds too a list
whose hyphens are not indented. -/
def read (block entries : Bool) : Nat → List Token → Except Fault (Node × List Token)
  | 0, _ => .error (.expected "a value")
  | fuel + 1, tokens =>
    match tokens with
    | .scalar text plain :: rest => .ok (.scalar text plain, rest)
    | .openBracket :: rest => do
      let (items, rest) ← readFlowItems true fuel rest
      return (.list items, rest)
    | .openBrace :: rest => do
      let (pairs, rest) ← readFlowPairs true fuel rest
      return (.mapping pairs, rest)
    | .entry :: rest => do
      if !entries then throw (.expected "a value")
      let (items, rest) ← readBareItems fuel (.entry :: rest)
      return (.list items, rest)
    | .listStart :: rest => do
      if !block then throw (.expected "a value")
      let (items, rest) ← readItems fuel rest
      return (.list items, rest)
    | .mappingStart :: rest => do
      if !block then throw (.expected "a value")
      let (pairs, rest) ← readPairs fuel rest
      return (.mapping pairs, rest)
    | _ => .error (.expected "a value")

/-- The entries of an indented list. -/
def readItems : Nat → List Token → Except Fault (List Node × List Token)
  | 0, _ => .error (.expected "'-'")
  | fuel + 1, tokens =>
    match tokens with
    | .blockEnd :: rest => .ok ([], rest)
    | .entry :: rest => do
      let (item, rest) ←
        match rest with
        | .entry :: _ | .blockEnd :: _ => pure (empty, rest)
        | _ => read true false fuel rest
      let (items, rest) ← readItems fuel rest
      return (item :: items, rest)
    | _ => .error (.expected "'-'")

/-- The entries of a list whose hyphens are not indented. -/
def readBareItems : Nat → List Token → Except Fault (List Node × List Token)
  | 0, _ => .error (.expected "'-'")
  | fuel + 1, tokens =>
    match tokens with
    | .entry :: rest => do
      let (item, rest) ←
        match rest with
        | .entry :: _ | .key :: _ | .value :: _ | .blockEnd :: _ => pure (empty, rest)
        | _ => read true false fuel rest
      let (items, rest) ← readBareItems fuel rest
      return (item :: items, rest)
    | _ => .ok ([], tokens)

/-- The pairs of an indented mapping. -/
def readPairs : Nat → List Token → Except Fault (List (Node × Node) × List Token)
  | 0, _ => .error (.expected "a key")
  | fuel + 1, tokens =>
    match tokens with
    | .blockEnd :: rest => .ok ([], rest)
    | .key :: rest => do
      let (key, rest) ← readPart fuel rest
      let (value, rest) ←
        match rest with
        | .value :: rest => readPart fuel rest
        | _ => pure (empty, rest)
      let (pairs, rest) ← readPairs fuel rest
      return ((key, value) :: pairs, rest)
    | _ => .error (.expected "a key")

/-- The key or the value of a pair of an indented mapping. -/
def readPart : Nat → List Token → Except Fault (Node × List Token)
  | 0, _ => .error (.expected "a value")
  | fuel + 1, tokens =>
    match tokens with
    | .key :: _ | .value :: _ | .blockEnd :: _ => .ok (empty, tokens)
    | _ => read true true fuel tokens

/-- The entries of a list in brackets; a pair in it makes a mapping of its own. -/
def readFlowItems (first : Bool) : Nat → List Token → Except Fault (List Node × List Token)
  | 0, _ => .error (.expected "',' or ']'")
  | fuel + 1, tokens => do
    match tokens with
    | .closeBracket :: rest => return ([], rest)
    | _ =>
      let tokens ←
        match first, tokens with
        | true, tokens => pure tokens
        | false, .comma :: rest => pure rest
        | false, _ => throw (.expected "',' or ']'")
      match tokens with
      | .closeBracket :: rest => return ([], rest)
      | .key :: rest =>
        let (key, rest) ←
          match rest with
          | .value :: rest | .comma :: rest | .closeBracket :: rest => pure (empty, rest)
          | _ => read false false fuel rest
        let (value, rest) ←
          match rest with
          | .value :: rest =>
            match rest with
            | .comma :: _ | .closeBracket :: _ => pure (empty, rest)
            | _ => read false false fuel rest
          | _ => pure (empty, rest)
        let (items, rest) ← readFlowItems false fuel rest
        return (.mapping [(key, value)] :: items, rest)
      | tokens =>
        let (item, rest) ← read false false fuel tokens
        let (items, rest) ← readFlowItems false fuel rest
        return (item :: items, rest)

/-- The pairs of a mapping in braces; a key may stand without a value. -/
def readFlowPairs (first : Bool) : Nat → List Token →
    Except Fault (List (Node × Node) × List Token)
  | 0, _ => .error (.expected "',' or a closing brace")
  | fuel + 1, tokens => do
    match tokens with
    | .closeBrace :: rest => return ([], rest)
    | _ =>
      let tokens ←
        match first, tokens with
        | true, tokens => pure tokens
        | false, .comma :: rest => pure rest
        | false, _ => throw (.expected "',' or a closing brace")
      match tokens with
      | .closeBrace :: rest => return ([], rest)
      | .key :: rest =>
        let (key, rest) ←
          match rest with
          | .value :: _ | .comma :: _ | .closeBrace :: _ => pure (empty, rest)
          | _ => read false false fuel rest
        let (value, rest) ←
          match rest with
          | .value :: rest =>
            match rest with
            | .comma :: _ | .closeBrace :: _ => pure (empty, rest)
            | _ => read false false fuel rest
          | _ => pure (empty, rest)
        let (pairs, rest) ← readFlowPairs false fuel rest
        return ((key, value) :: pairs, rest)
      | tokens =>
        let (key, rest) ← read false false fuel tokens
        let (pairs, rest) ← readFlowPairs false fuel rest
        return ((key, empty) :: pairs, rest)

end

/-! ### Documents -/

/-- Whether a token ends or starts a document, or declares the version of the next one. -/
def isOutside : Token → Bool
  | .version _ _ => true
  | .documentStart => true
  | .documentEnd => true
  | _ => false

/-- The content of a document that begins with a mark; there may be none. -/
def readContent (tokens : List Token) : Except Fault (Node × List Token) :=
  if tokens.head?.all isOutside then .ok (empty, tokens)
  else read true false (2 * tokens.length + 2) tokens

/-- The only document of the tokens, if there is one. -/
def ofTokens : List Token → Except Fault (Option Node)
  | [] => .ok none
  | tokens => do
    let (node, rest) ←
      match tokens with
      | .documentStart :: rest => readContent rest
      | .version major minor :: .documentStart :: rest =>
        if major == 1 && (minor == 1 || minor == 2) then readContent rest
        else throw .badDirective
      | .version _ _ :: _ => throw .badDirective
      | tokens => read true false (2 * tokens.length + 2) tokens
    match rest.dropWhile (· == .documentEnd) with
    | [] => return some node
    | _ => throw .severalDocuments

end Node

/-- The document of a text; a text without any has none. -/
def read (s : Text) : Except Fault (Option Node) := do
  Node.ofTokens (← tokenize s)

end PageTemplate.Yaml
