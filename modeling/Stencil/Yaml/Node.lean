import Stencil.Yaml.Token

/-!
# Nodes of a document

A document holds one node: a scalar, a sequence or a mapping.  An alias stands for another node by
a number.  A node with an anchor gets the number of anchor names that were known before it, and an
alias refers to the number that its name got last; so a node after one whose name was used again
may take over its number, and what a number stands for is known only at the end of the document.
-/

namespace Stencil.Yaml

/-- A node of a document. -/
inductive Node where
  /-- A scalar with its tag, if it has one. -/
  | scalar (style : ScalarStyle) (tag : Option Text) (content : Text)
  /-- A sequence of nodes. -/
  | sequence (items : List Node)
  /-- Keys with their values, in order. -/
  | mapping (entries : List (Node × Node))
  /-- A reference to the node with a number. -/
  | alias (number : Nat)
  deriving Inhabited

/-- A node with the nodes that its aliases stand for. -/
structure Document where
  /-- The node of the whole document. -/
  root : Node
  /-- The numbered nodes; of several with one number the first one counts. -/
  anchored : List (Nat × Node)
  /-- The number of scalars, of aliases, and of the starts and ends of sequences and mappings. -/
  size : Nat

namespace Node

/-- A node that is not written. -/
def empty : Node := .scalar .plain none []

/-- What has been read of a document. -/
structure State where
  /-- The unread tokens. -/
  tokens : List Token
  /-- The names of anchors, each with the number that it got last. -/
  names : List (Text × Nat)
  /-- The numbered nodes, the latest first; a node that is not complete has no value yet. -/
  anchored : List (Nat × Option Node)
  /-- The number of scalars, of aliases, and of the starts and ends of sequences and mappings. -/
  size : Nat

/-- A reader of nodes; the flags say that a block, and a sequence that is not indented, may
stand here. -/
abbrev Reader := (block indentless : Bool) → State → Option (Node × State)

namespace State

/-- The state before the first node. -/
def start (tokens : List Token) : State := ⟨tokens, [], [], 0⟩

/-- The state with other tokens. -/
def withTokens (state : State) (tokens : List Token) : State := { state with tokens }

/-- The state after so many more parts of a node. -/
def grow (state : State) (count : Nat) : State := { state with size := state.size + count }

/-- The next token. -/
def next (state : State) : Option Token := state.tokens.head?

/-- An anchor whose node is not complete. -/
def declare (state : State) (anchor : Option Text) : State :=
  match anchor with
  | some name =>
    let number := state.names.length
    { state with
      names := (name, number) :: state.names.filter (·.1 != name)
      anchored := (number, none) :: state.anchored }
  | none => state

/-- The latest node that is not complete gets its value, if it has an anchor. -/
def complete (state : State) (anchor : Option Text) (node : Node) : State :=
  match anchor with
  | none => state
  | some _ =>
    match state.anchored.span (·.2.isSome) with
    | (later, (number, _) :: earlier) =>
      { state with anchored := later ++ (number, some node) :: earlier }
    | (_, []) => state

/-- The document whose node has been read. -/
def document (state : State) (root : Node) : Document :=
  ⟨root, state.anchored.filterMap fun (number, node) => node.map (number, ·), state.size⟩

end State

/-- A node that is not written, before which a tag may stand. -/
def missing (tag : Option Text) (state : State) : Node × State :=
  (.scalar .plain tag [], state.grow 1)

/-- A node that may be missing before one of some tokens. -/
def readOptional (reader : Reader) (block indentless : Bool) (stops : List Token)
    (state : State) : Option (Node × State) :=
  if state.next.any stops.contains then some (missing none state)
  else reader block indentless state

/-- The entries of a block sequence. -/
def readBlockSequence (reader : Reader) : Nat → State → Option (List Node × State)
  | 0, _ => none
  | fuel + 1, state =>
    match state.tokens with
    | .blockEntry :: rest => do
      let (item, state) ←
        readOptional reader true false [.blockEntry, .blockEnd] (state.withTokens rest)
      let (items, state) ← readBlockSequence reader fuel state
      some (item :: items, state)
    | .blockEnd :: rest => some ([], state.withTokens rest)
    | _ => none

/-- The entries of a block sequence that is not indented more than the mapping around it. -/
def readIndentless (reader : Reader) : Nat → State → Option (List Node × State)
  | 0, _ => none
  | fuel + 1, state =>
    match state.tokens with
    | .blockEntry :: rest => do
      let (item, state) ←
        readOptional reader true false [.blockEntry, .key, .value, .blockEnd] (state.withTokens rest)
      let (items, state) ← readIndentless reader fuel state
      some (item :: items, state)
    | _ => some ([], state)

/-- The entries of a block mapping. -/
def readBlockMapping (reader : Reader) : Nat → State → Option (List (Node × Node) × State)
  | 0, _ => none
  | fuel + 1, state =>
    match state.tokens with
    | .key :: rest => do
      let stops : List Token := [.key, .value, .blockEnd]
      let (key, state) ← readOptional reader true true stops (state.withTokens rest)
      let (value, state) ← match state.tokens with
        | .value :: rest => readOptional reader true true stops (state.withTokens rest)
        | _ => some (missing none state)
      let (entries, state) ← readBlockMapping reader fuel state
      some ((key, value) :: entries, state)
    | .blockEnd :: rest => some ([], state.withTokens rest)
    | _ => none

/-- A mapping of one entry inside brackets, after its key sign. -/
def readPair (reader : Reader) (state : State) : Option (Node × State) := do
  let stops : List Token := [.flowEntry, .flowSequenceEnd]
  let (key, state) ←
    if state.next.any (Token.value :: stops).contains then
      some (missing none (state.withTokens (state.tokens.drop 1)))
    else reader false false state
  let (value, state) ← match state.tokens with
    | .value :: rest => readOptional reader false false stops (state.withTokens rest)
    | _ => some (missing none state)
  some (.mapping [(key, value)], state.grow 2)

/-- The entries of a sequence in brackets; between two of them stands a comma. -/
def readFlowSequence (reader : Reader) : Nat → Bool → State → Option (List Node × State)
  | 0, _, _ => none
  | fuel + 1, first, state => do
    let tokens ← match state.tokens, first with
      | .flowSequenceEnd :: _, _ => some state.tokens
      | tokens, true => some tokens
      | .flowEntry :: rest, false => some rest
      | _, false => none
    match tokens with
    | .flowSequenceEnd :: rest => some ([], state.withTokens rest)
    | .key :: rest =>
      let (item, state) ← readPair reader (state.withTokens rest)
      let (items, state) ← readFlowSequence reader fuel false state
      some (item :: items, state)
    | tokens =>
      let (item, state) ← reader false false (state.withTokens tokens)
      let (items, state) ← readFlowSequence reader fuel false state
      some (item :: items, state)

/-- The entries of a mapping in braces; between two of them stands a comma. -/
def readFlowMapping (reader : Reader) :
    Nat → Bool → State → Option (List (Node × Node) × State)
  | 0, _, _ => none
  | fuel + 1, first, state => do
    let tokens ← match state.tokens, first with
      | .flowMappingEnd :: _, _ => some state.tokens
      | tokens, true => some tokens
      | .flowEntry :: rest, false => some rest
      | _, false => none
    match tokens with
    | .flowMappingEnd :: rest => some ([], state.withTokens rest)
    | .key :: rest =>
      let stops : List Token := [.flowEntry, .flowMappingEnd]
      let (key, state) ←
        readOptional reader false false (.value :: stops) (state.withTokens rest)
      let (value, state) ← match state.tokens with
        | .value :: rest => readOptional reader false false stops (state.withTokens rest)
        | _ => some (missing none state)
      let (entries, state) ← readFlowMapping reader fuel false state
      some ((key, value) :: entries, state)
    | tokens =>
      let (key, state) ← reader false false (state.withTokens tokens)
      let (value, state) := missing none state
      let (entries, state) ← readFlowMapping reader fuel false state
      some ((key, value) :: entries, state)

/-- The meaning of tag handles. -/
abbrev Handles := List (Text × Text)

/-- The handles that every document has, after those that it declares. -/
def Handles.standard : Handles := [(['!'], ['!']), (['!', '!'], "tag:yaml.org,2002:".toList)]

/-- The tag that a handle and a suffix stand for; a tag in full has no handle. -/
def Handles.tag? (handles : Handles) (handle suffix : Text) : Option Text :=
  if handle.isEmpty then some suffix
  else ((handles ++ Handles.standard).lookup handle).map (· ++ suffix)

/-- What stands in front of a node. -/
structure Properties where
  /-- The anchor. -/
  anchor : Option Text
  /-- The tag. -/
  tag : Option Text
  /-- The tokens after both. -/
  rest : List Token

/-- There is an anchor or a tag. -/
def Properties.isPresent (properties : Properties) : Bool :=
  properties.anchor.isSome || properties.tag.isSome

/-- The anchor and the tag in front of a node, in either order. -/
def readProperties? (handles : Handles) : List Token → Option Properties
  | .anchor name :: .tag handle suffix :: rest
  | .tag handle suffix :: .anchor name :: rest =>
    (handles.tag? handle suffix).map fun tag => ⟨some name, some tag, rest⟩
  | .anchor name :: rest => some ⟨some name, none, rest⟩
  | .tag handle suffix :: rest =>
    (handles.tag? handle suffix).map fun tag => ⟨none, some tag, rest⟩
  | rest => some ⟨none, none, rest⟩

/-- A node without its anchor and tag.  The tag of one exclamation mark is no tag of a scalar that
is written. -/
def readContent (reader : Reader) (block indentless : Bool) (properties : Properties)
    (state : State) : Option (Node × State) :=
  let fuel := state.tokens.length + 1
  let absent := if properties.isPresent then some (missing properties.tag state) else none
  match state.tokens with
  | .blockEntry :: _ =>
    if indentless then do
      let (items, state) ← readIndentless reader fuel state
      some (.sequence items, state.grow 2)
    else absent
  | .scalar style content :: rest =>
    some (.scalar style (properties.tag.filter (· != ['!'])) content,
      (state.withTokens rest).grow 1)
  | .flowSequenceStart :: rest => do
    let (items, state) ← readFlowSequence reader fuel true (state.withTokens rest)
    some (.sequence items, state.grow 2)
  | .flowMappingStart :: rest => do
    let (entries, state) ← readFlowMapping reader fuel true (state.withTokens rest)
    some (.mapping entries, state.grow 2)
  | .blockSequenceStart :: rest =>
    if block then do
      let (items, state) ← readBlockSequence reader fuel (state.withTokens rest)
      some (.sequence items, state.grow 2)
    else absent
  | .blockMappingStart :: rest =>
    if block then do
      let (entries, state) ← readBlockMapping reader fuel (state.withTokens rest)
      some (.mapping entries, state.grow 2)
    else absent
  | _ => absent

/-- A node at the head of the tokens.  The fuel bounds the depth of nesting. -/
def read (handles : Handles) : Nat → Reader
  | 0, _, _, _ => none
  | depth + 1, block, indentless, state =>
    match state.tokens with
    | .alias name :: rest =>
      (state.names.lookup name).map fun number =>
        (.alias number, (state.withTokens rest).grow 1)
    | tokens => do
      let properties ← readProperties? handles tokens
      let state := (state.withTokens properties.rest).declare properties.anchor
      let (node, state) ← readContent (read handles depth) block indentless properties state
      some (node, state.complete properties.anchor node)

end Node

namespace Document

open Node (Handles State)

/-- The directives in front of a document: at most one version, which is 1.1 or 1.2, and tag
handles that differ. -/
def readDirectives? (version : Bool) (handles : Handles) :
    List Token → Option (Handles × List Token)
  | .versionDirective major minor :: rest =>
    if version || major != 1 || (minor != 1 && minor != 2) then none
    else readDirectives? true handles rest
  | .tagDirective handle start :: rest =>
    if (handles.lookup handle).isSome then none
    else readDirectives? version ((handle, start) :: handles) rest
  | rest => some (handles, rest)

/-- The document that starts with a node, and the tokens after it. -/
def read? (handles : Handles) (tokens : List Token) : Option (Document × List Token) := do
  let (root, state) ← Node.read handles (tokens.length + 1) true false (.start tokens)
  some (state.document root, state.tokens)

/-- The content of a document after its start line, which may be empty. -/
def readExplicit? (handles : Handles) (tokens : List Token) : Option (Document × List Token) :=
  match tokens with
  | [] | .documentEnd :: _ | .documentStart :: _ | .versionDirective _ _ :: _
  | .tagDirective _ _ :: _ => some (⟨Node.empty, [], 1⟩, tokens)
  | _ => read? handles tokens

/-- The only document of a text. -/
def ofText? (text : Text) : Option Document := do
  let tokens ← Token.ofText? text
  let (document, rest) ← match tokens with
    | [] => none
    | .versionDirective _ _ :: _ | .tagDirective _ _ :: _ | .documentStart :: _ =>
      match readDirectives? false [] tokens with
      | some (handles, .documentStart :: rest) => readExplicit? handles rest
      | _ => none
    | _ => read? [] tokens
  if (rest.dropWhile (· == .documentEnd)).isEmpty then some document else none

end Document

end Stencil.Yaml
