import BotBench.Yaml.Token

/-! # The node tree of a settings document

`Node.ofTokens?` builds the tree of one document. Aliases are replaced by the node they name; an
alias inside the node that it names becomes a `loop`. A second document, an unknown alias or a name
that is given twice is an error. -/

namespace BotBench.Yaml

/-- A node of the tree, with its tag if one is written. A plain scalar stands without quotes. -/
inductive Node
  | scalar (tag : Option String) (plain : Bool) (text : String)
  | sequence (tag : Option String) (items : List Node)
  | mapping (tag : Option String) (pairs : List (Node × Node))
  | loop (isMapping : Bool)
  deriving Inhabited

/-- The node of a value that is left out. -/
def Node.absent : Node := .scalar none true ""

/-- What is left of the tokens, the nodes that have been named, and the tag handles of the document.
-/
structure TreeState where
  tokens : List Token
  named : List (String × Node) := []
  handles : List (String × String) := []

/-- The tag handles that every document knows. -/
def commonHandles : List (String × String) := [("!", "!"), ("!!", "tag:yaml.org,2002:")]

namespace TreeState

/-- The next token. -/
def peek (s : TreeState) : Token := s.tokens.headD .streamEnd

/-- Without the next token. -/
def skip (s : TreeState) : TreeState := { s with tokens := s.tokens.tail }

/-- The address of a tag. -/
def address? (s : TreeState) : Option String → String → Option String
  | none, suffix => some suffix
  | some handle, suffix =>
      (s.handles.find? fun entry => entry.1 == handle).map fun entry => entry.2 ++ suffix

/-- Read the anchor and the tag in front of a node, in either order. -/
def properties (s : TreeState) : Option (Option String × Option String × TreeState) :=
  match s.peek with
  | .anchor name =>
      match s.skip.peek with
      | .tag handle suffix => do
          return (some name, some (← s.address? handle suffix), s.skip.skip)
      | _ => some (some name, none, s.skip)
  | .tag handle suffix => do
      let address ← s.address? handle suffix
      match s.skip.peek with
      | .anchor name => return (some name, some address, s.skip.skip)
      | _ => return (none, some address, s.skip)
  | _ => some (none, none, s)

/-- Give a name to a node; a name is given once. -/
def name (s : TreeState) (anchor : Option String) (node : Node) : Option TreeState :=
  match anchor with
  | none => some s
  | some anchor =>
      if s.named.any fun entry => entry.1 == anchor then none
      else some { s with named := (anchor, node) :: s.named }

/-- Replace the node that carries a name. -/
def rename (s : TreeState) (anchor : Option String) (node : Node) : TreeState :=
  match anchor with
  | none => s
  | some anchor =>
      { s with
        named := s.named.map fun entry => if entry.1 == anchor then (anchor, node) else entry }

end TreeState

/-- Where a node stands: in brackets, in a block, or behind a key, where a sequence needs no deeper
indentation. -/
inductive Place
  | flow
  | block
  | underKey
  deriving DecidableEq

mutual

/-- Read a node. -/
def readNode (fuel : Nat) (place : Place) (s : TreeState) : Option (Node × TreeState) :=
  match fuel with
  | 0 => none
  | fuel + 1 =>
      match s.peek with
      | .alias name =>
          (s.named.find? fun entry => entry.1 == name).map fun entry => (entry.2, s.skip)
      | _ => do
          let (anchor, tag, s) ← s.properties
          match s.peek with
          | .scalar text plain => do
              let node := Node.scalar tag plain text
              return (node, ← s.skip.name anchor node)
          | .flowSequenceStart => do
              let s ← s.skip.name anchor (.loop false)
              let (items, s) ← readFlowItems fuel true s
              return (.sequence tag items, s.rename anchor (.sequence tag items))
          | .flowMappingStart => do
              let s ← s.skip.name anchor (.loop true)
              let (pairs, s) ← readFlowPairs fuel true s
              return (.mapping tag pairs, s.rename anchor (.mapping tag pairs))
          | token =>
              if token == .blockEntry && place == .underKey then do
                let s ← s.name anchor (.loop false)
                let (items, s) ← readLooseItems fuel s
                return (.sequence tag items, s.rename anchor (.sequence tag items))
              else if token == .blockSequenceStart && place != .flow then do
                let s ← s.skip.name anchor (.loop false)
                let (items, s) ← readBlockItems fuel s
                return (.sequence tag items, s.rename anchor (.sequence tag items))
              else if token == .blockMappingStart && place != .flow then do
                let s ← s.skip.name anchor (.loop true)
                let (pairs, s) ← readBlockPairs fuel s
                return (.mapping tag pairs, s.rename anchor (.mapping tag pairs))
              else if anchor.isSome || tag.isSome then do
                let node := Node.scalar tag (tag.isNone || tag == some "!") ""
                return (node, ← s.name anchor node)
              else none

/-- Read a node, or the absent node in front of one of the tokens `stops`. -/
def readOptional (fuel : Nat) (place : Place) (stops : List Token) (s : TreeState) :
    Option (Node × TreeState) :=
  match fuel with
  | 0 => none
  | fuel + 1 => if stops.contains s.peek then some (.absent, s) else readNode fuel place s

/-- Read the entries of an indented sequence up to its end. -/
def readBlockItems (fuel : Nat) (s : TreeState) : Option (List Node × TreeState) :=
  match fuel with
  | 0 => none
  | fuel + 1 =>
      match s.peek with
      | .blockEntry => do
          let (item, s) ← readOptional fuel .block [.blockEntry, .blockEnd] s.skip
          let (items, s) ← readBlockItems fuel s
          return (item :: items, s)
      | .blockEnd => some ([], s.skip)
      | _ => none

/-- Read the entries of a sequence that is not indented below its key. -/
def readLooseItems (fuel : Nat) (s : TreeState) : Option (List Node × TreeState) :=
  match fuel with
  | 0 => none
  | fuel + 1 =>
      match s.peek with
      | .blockEntry => do
          let (item, s) ← readOptional fuel .block [.blockEntry, .key, .value, .blockEnd] s.skip
          let (items, s) ← readLooseItems fuel s
          return (item :: items, s)
      | _ => some ([], s)

/-- Read the keys and values of an indented mapping up to its end. -/
def readBlockPairs (fuel : Nat) (s : TreeState) : Option (List (Node × Node) × TreeState) :=
  match fuel with
  | 0 => none
  | fuel + 1 =>
      match s.peek with
      | .key => do
          let (key, s) ← readOptional fuel .underKey [.key, .value, .blockEnd] s.skip
          let (value, s) ← readBlockValue fuel s
          let (pairs, s) ← readBlockPairs fuel s
          return ((key, value) :: pairs, s)
      | .blockEnd => some ([], s.skip)
      | _ => none

/-- Read the value of a key of an indented mapping; it may be left out. -/
def readBlockValue (fuel : Nat) (s : TreeState) : Option (Node × TreeState) :=
  match fuel with
  | 0 => none
  | fuel + 1 =>
      if s.peek == .value then readOptional fuel .underKey [.key, .value, .blockEnd] s.skip
      else some (.absent, s)

/-- Read the entries of a sequence in brackets; a key makes an entry a mapping of one pair. -/
def readFlowItems (fuel : Nat) (first : Bool) (s : TreeState) : Option (List Node × TreeState) :=
  match fuel with
  | 0 => none
  | fuel + 1 =>
      if s.peek == .flowSequenceEnd then some ([], s.skip)
      else do
        let s ← if first then some s else if s.peek == .flowEntry then some s.skip else none
        match s.peek with
        | .key => do
            let stops := [Token.flowEntry, .flowSequenceEnd]
            let (key, s) ← readOptional fuel .flow (.value :: stops) s.skip
            let (value, s) ←
              if s.peek == .value then readOptional fuel .flow stops s.skip else some (.absent, s)
            let (items, s) ← readFlowItems fuel false s
            return (.mapping none [(key, value)] :: items, s)
        | .flowSequenceEnd => some ([], s.skip)
        | _ => do
            let (item, s) ← readNode fuel .flow s
            let (items, s) ← readFlowItems fuel false s
            return (item :: items, s)

/-- Read the keys and values of a mapping in braces. -/
def readFlowPairs (fuel : Nat) (first : Bool) (s : TreeState) :
    Option (List (Node × Node) × TreeState) :=
  match fuel with
  | 0 => none
  | fuel + 1 =>
      if s.peek == .flowMappingEnd then some ([], s.skip)
      else do
        let s ← if first then some s else if s.peek == .flowEntry then some s.skip else none
        match s.peek with
        | .key => do
            let stops := [Token.flowEntry, .flowMappingEnd]
            let (key, s) ← readOptional fuel .flow (.value :: stops) s.skip
            let (value, s) ←
              if s.peek == .value then readOptional fuel .flow stops s.skip else some (.absent, s)
            let (pairs, s) ← readFlowPairs fuel false s
            return ((key, value) :: pairs, s)
        | .flowMappingEnd => some ([], s.skip)
        | _ => do
            let (key, s) ← readNode fuel .flow s
            let (pairs, s) ← readFlowPairs fuel false s
            return ((key, .absent) :: pairs, s)

end

/-- Read the directives in front of a document: at most one version, of major number one, and tag
handles, each given once. -/
def readDirectives (fuel : Nat) (versions : Nat) (handles : List (String × String))
    (s : TreeState) : Option TreeState :=
  match fuel with
  | 0 => none
  | fuel + 1 =>
      match s.peek with
      | .directive "YAML" major _ =>
          if versions == 0 && major.all (fun c => c == '0' || c == '1') &&
              Number.readInt? major == some 1
          then readDirectives fuel 1 handles s.skip
          else none
      | .directive "TAG" handle start =>
          if handles.any fun entry => entry.1 == handle then none
          else readDirectives fuel versions (handles ++ [(handle, start)]) s.skip
      | .directive _ _ _ => readDirectives fuel versions handles s.skip
      | _ => some { s with handles := handles ++ commonHandles }

/-- The tokens without document ends in front. -/
def skipDocumentEnds (s : TreeState) : TreeState :=
  { s with tokens := s.tokens.dropWhile (· == .documentEnd) }

/-- The tree of the one document of a text; nothing inside when the text holds no document. -/
def Node.ofTokens? (tokens : List Token) : Option (Option Node) := do
  let fuel := 4 * tokens.length + 4
  let s : TreeState := { tokens, handles := commonHandles }
  if s.peek == .streamEnd then return none
  let explicit :=
    match s.peek with
    | .directive _ _ _ | .documentStart => true
    | _ => false
  let (node, s) ←
    if explicit then do
      let s ← readDirectives fuel 0 [] s
      if s.peek != .documentStart then none
      let s := s.skip
      match s.peek with
      | .directive _ _ _ | .documentStart | .documentEnd | .streamEnd => some (.absent, s)
      | _ => readNode fuel .block s
    else readNode fuel .block s
  if (skipDocumentEnds s).peek == .streamEnd then return some node else none

end BotBench.Yaml
