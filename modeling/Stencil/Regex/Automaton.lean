import Std.Data.HashMap
import Stencil.Regex.Basic
import Stencil.Regex.Utf8

/-!
# Sizes of automata

An expression may be used only if its automaton, which reads bytes, is not too large; it is built
once for reading forward and once for reading backward.  Only the number of states and the bytes
that they take are counted here, and the count stops once it is past the limit.  States that read
the bytes of a set of characters are shared as far as a table of a fixed size remembers them; a state
is put into the table at a place given by its hash, where it displaces what was there.
-/

namespace Stencil.Regex

/-- The bytes that an automaton may take. -/
def sizeLimit : Nat := 10485760

/-- The states of an automaton so far. -/
structure Automaton where
  /-- The number of states; the next state gets this number. -/
  states : Nat
  /-- The bytes of the lists that states hold. -/
  listBytes : Nat

namespace Automaton

/-- The bytes that an automaton takes: 32 for each state, and the lists. -/
def bytes (automaton : Automaton) : Nat := 32 * automaton.states + automaton.listBytes

/-- The automaton with so many more states and bytes of lists, if it is within the limit. -/
def extend (automaton : Automaton) (states listBytes : Nat) : Option Automaton :=
  let automaton := ⟨automaton.states + states, automaton.listBytes + listBytes⟩
  if sizeLimit < automaton.bytes then none else some automaton

end Automaton

/-- A part of an automaton: the automaton with this part added, if it is within the limit. -/
structure Growth where
  /-- The automaton with the part. -/
  addTo : Automaton → Option Automaton

namespace Growth

/-- No states. -/
def none : Growth := ⟨some⟩

/-- One part after the other. -/
instance : Append Growth where
  append first second := ⟨fun automaton =>
    match first.addTo automaton with
    | some automaton => second.addTo automaton
    | .none => .none⟩

/-- A part added so many times. -/
def replicateTo (part : Growth) : Nat → Automaton → Option Automaton
  | 0, automaton => some automaton
  | count + 1, automaton =>
    match part.addTo automaton with
    | some automaton => replicateTo part count automaton
    | .none => .none

/-- A part so many times. -/
def replicate (count : Nat) (part : Growth) : Growth := ⟨replicateTo part count⟩

/-- A state with a list of so many bytes. -/
def listState (listBytes : Nat) : Growth := ⟨fun automaton => automaton.extend 1 listBytes⟩

/-- A state without list. -/
def state : Growth := listState 0

/-- The bytes of one step of a state to another by a range of bytes. -/
def stepBytes : Nat := 8

/-- The bytes of one of several states that a state goes on to. -/
def branchBytes : Nat := 4

/-- A state that goes on to two others. -/
def fork : Growth := listState (2 * branchBytes)

/-- One more state that a state goes on to. -/
def branch : Growth := ⟨fun automaton => automaton.extend 0 branchBytes⟩

/-! ## Sets of characters -/

/-- A step by a range of bytes to another state. -/
structure Edge where
  /-- The bytes. -/
  range : ByteRange
  /-- The state that it leads to. -/
  target : Nat
  deriving DecidableEq

/-- One number mixed into a hash. -/
def mix (hash : UInt64) (n : Nat) : UInt64 := (hash ^^^ n.toUInt64) * 1099511628211

/-- The hash of no numbers. -/
def hashStart : UInt64 := 14695981039346656037

/-- The hash of the steps of a state. -/
def hashEdges (edges : List Edge) : UInt64 :=
  edges.foldl (fun hash edge => mix (mix (mix hash edge.range.1) edge.range.2) edge.target)
    hashStart

/-- A state that may get more steps: the steps so far, the latest first, and the bytes of a step
whose target is not known yet. -/
structure OpenState where
  /-- The complete steps. -/
  edges : List Edge
  /-- The step without target. -/
  pending : Option ByteRange

/-- The state after its last step got its target. -/
def OpenState.close (state : OpenState) (target : Nat) : OpenState :=
  match state.pending with
  | some range => ⟨⟨range, target⟩ :: state.edges, .none⟩
  | .none => state

/-- The automaton while the states of a set are added to it. -/
structure SetBuilder where
  /-- The automaton. -/
  automaton : Automaton
  /-- The states that are remembered, by their place in the table. -/
  known : Std.HashMap Nat (List Edge × Nat)
  /-- The open states from the deepest to the first. -/
  path : List OpenState

namespace SetBuilder

/-- The number of places of the table for reading forward. -/
def tableSize : Nat := 10000

/-- The number of a state with given steps. -/
def compile (builder : SetBuilder) (edges : List Edge) : Option (Nat × SetBuilder) :=
  let place := (hashEdges edges).toNat % tableSize
  let number := builder.automaton.states
  let isKnown := fun (entry : List Edge × Nat) => entry.1 = edges
  match (builder.known[place]?).filter isKnown with
  | some (_, number) => some (number, builder)
  | .none =>
    match builder.automaton.extend 1 (stepBytes * edges.length) with
    | some automaton =>
      some (number, { builder with automaton, known := builder.known.insert place (edges, number) })
    | .none => .none

/-- So many of the deepest open states are compiled, the last step of each leading to the one
compiled before it and that of the first to a target; then the next state gets its last step. -/
def close : Nat → Nat → SetBuilder → Option SetBuilder
  | 0, target, builder =>
    match builder.path with
    | state :: rest => some { builder with path := state.close target :: rest }
    | [] => some builder
  | count + 1, target, builder =>
    match builder.path with
    | state :: rest =>
      match compile { builder with path := rest } (state.close target).edges.reverse with
      | some (number, builder) => close count number builder
      | .none => .none
    | [] => some builder

/-- The number of open states whose last step a piece shares, from the first state on. -/
def sharedSteps : List OpenState → List ByteRange → Nat
  | state :: states, range :: ranges =>
    if state.pending = some range then sharedSteps states ranges + 1 else 0
  | _, _ => 0

/-- The open states with the steps of a piece after them. -/
def openPath : List OpenState → List ByteRange → List OpenState
  | state :: rest, range :: ranges =>
    ranges.foldl (fun path range => ⟨[], some range⟩ :: path)
      ({ state with pending := some range } :: rest)
  | path, _ => path

/-- A piece of the set whose steps lead to a target. -/
def addPiece (target : Nat) (builder : SetBuilder) (piece : List ByteRange) : Option SetBuilder := do
  let shared := sharedSteps builder.path.reverse piece
  let builder ← close (builder.path.length - (shared + 1)) target builder
  some { builder with path := openPath builder.path (piece.drop shared) }

end SetBuilder

/-- The states that read a character of a set forward, given by its pieces. -/
def setForward (pieces : List (List ByteRange)) : Growth where
  addTo automaton := do
    let target := automaton.states
    let automaton ← state.addTo automaton
    let builder ← pieces.foldlM (SetBuilder.addPiece target) ⟨automaton, ∅, [⟨[], .none⟩]⟩
    let builder ← builder.close (builder.path.length - 1) target
    let (_, builder) ← builder.compile (builder.path.headD ⟨[], .none⟩).edges.reverse
    some builder.automaton

/-- The automaton while the states of a set are added to it for reading backward, with the steps
that are remembered by their place in the table. -/
structure BackwardBuilder where
  /-- The automaton. -/
  automaton : Automaton
  /-- The steps that are remembered, with the states that take them. -/
  known : Std.HashMap Nat (Edge × Nat)

namespace BackwardBuilder

/-- The number of places of the table for reading backward. -/
def tableSize : Nat := 1000

/-- The number of a state with one step to a target. -/
def compile (builder : BackwardBuilder) (edge : Edge) : Option (Nat × BackwardBuilder) :=
  let hash := mix (mix (mix hashStart edge.target) edge.range.1) edge.range.2
  let place := hash.toNat % tableSize
  let number := builder.automaton.states
  match (builder.known[place]?).filter (fun entry => entry.1 = edge) with
  | some (_, number) => some (number, builder)
  | .none =>
    match builder.automaton.extend 1 0 with
    | some automaton =>
      some (number, { automaton, known := builder.known.insert place (edge, number) })
    | .none => .none

/-- The states for a piece, the step by its first bytes leading to a target. -/
def addSteps : Nat → List ByteRange → BackwardBuilder → Option BackwardBuilder
  | _, [], builder => some builder
  | target, range :: ranges, builder =>
    match builder.compile ⟨range, target⟩ with
    | some (number, builder) => addSteps number ranges builder
    | .none => .none

/-- The states for a piece, which is one more branch. -/
def addPiece (target : Nat) (builder : BackwardBuilder) (piece : List ByteRange) :
    Option BackwardBuilder := do
  let builder ← addSteps target piece builder
  some { builder with automaton := ← builder.automaton.extend 0 branchBytes }

end BackwardBuilder

/-- The states that read a character of a set backward, given by its pieces. -/
def setBackward (pieces : List (List ByteRange)) : Growth where
  addTo automaton := do
    let automaton ← state.addTo automaton
    let target := automaton.states
    let automaton ← state.addTo automaton
    let builder ← pieces.foldlM (BackwardBuilder.addPiece target) ⟨automaton, ∅⟩
    some builder.automaton

/-- The states that read a character of a set.  For a set of ASCII characters one state takes a step
for each range. -/
def ofSet (backward : Bool) (set : InversionList) : Growth :=
  if set.isAscii then state ++ listState (stepBytes * set.ranges.length)
  else if backward then setBackward (setByteRanges set)
  else setForward (setByteRanges set)

/-! ## Words -/

/-- The words with a given first byte, without it. -/
def wordsAfter (byte : Nat) (words : List (List Nat)) : List (List Nat) :=
  words.filterMap fun word => if word.head? = some byte then some word.tail else .none

/-- The states that read one of some words, where words with a common start share states.  A word
that ends divides the words before it from those after it.  The fuel bounds the length of a
word. -/
def ofWords : Nat → List (List Nat) → Growth
  | 0, _ => none
  | fuel + 1, words =>
    let words := if words.head? = some [] then [] :: words.dropWhile (· == []) else words
    let chunks := (words.splitOn []).map fun chunk =>
      ((chunk.filterMap List.head?).eraseDups).map fun byte => wordsAfter byte chunk
    let deeper := chunks.flatten.foldl (fun growth rests =>
      if rests.all List.isEmpty then growth else growth ++ ofWords fuel rests) none
    let steps := chunks.foldl (fun growth rests =>
      match rests.length with
      | 0 => growth
      | 1 => growth ++ state
      | count => growth ++ listState (stepBytes * count)) none
    let branches := (chunks.length - 1) + (chunks.filter fun rests => !rests.isEmpty).length
    deeper ++ steps ++ listState (branchBytes * branches)

/-- The bytes of a text in UTF-8. -/
def textBytes (text : Text) : List Nat := text.flatMap fun c => utf8Bytes c.toNat

/-- The texts of alternatives that are all literals. -/
def literals? (alternatives : List Regex) : Option (List Text) :=
  alternatives.mapM fun alternative =>
    match alternative with
    | .literal text => some text
    | _ => .none

/-- The states that read one of some texts. -/
def ofTexts (backward : Bool) (texts : List Text) : Growth :=
  let words := texts.map fun text =>
    if backward then (textBytes text).reverse else textBytes text
  state ++ ofWords (words.foldr (fun word fuel => word.length + fuel) 1) words

/-! ## Expressions -/

/-- Where an expression stands among alternatives. -/
inductive Place where
  /-- First or alone. -/
  | first
  /-- Second. -/
  | second
  /-- Further on. -/
  | later

namespace Place

/-- The place after a place. -/
def next : Place → Place
  | .first => .second
  | _ => .later

/-- What an alternative adds after its own states: the second one the states before and after all
alternatives, and a later one a branch. -/
def join : Place → Growth
  | .first => Growth.none
  | .second => fork ++ state
  | .later => branch

end Place

/-- The states of a repetition whose body has given states; the flag says that the body matches no
empty text. -/
def ofRepetition (body : Growth) (nonempty : Bool) (least : Nat) (most : Option Nat) : Growth :=
  match least, most with
  | 0, some 1 => fork ++ body ++ state
  | 0, .none => if nonempty then fork ++ body else body ++ fork ++ fork ++ state
  | least, .none => replicate least body ++ fork
  | least, some most =>
    let required := if least = 0 then state else replicate least body
    if least = most then required else required ++ state ++ replicate (most - least) (fork ++ body)

/-- The states of an expression among alternatives. -/
def ofRegex (backward : Bool) : Regex → Place → Growth
  | .empty, place => state ++ place.join
  | .literal text, place => replicate text.byteSize state ++ place.join
  | .set members, place => ofSet backward members ++ place.join
  | .assertion _, place => state ++ place.join
  | .group _ body, place =>
    let inner := ofRegex backward body .first
    (if backward then inner else state ++ inner ++ state) ++ place.join
  | .repeated _ least most body, place =>
    ofRepetition (ofRegex backward body .first) (body.minLength.any (0 < ·)) least most
      ++ place.join
  | .seq first rest, place =>
    let first := ofRegex backward first .first
    let rest := ofRegex backward rest .first
    (if backward then rest ++ first else first ++ rest) ++ place.join
  | .alt first rest, place =>
    match place, literals? (first :: rest.alternatives) with
    | .first, some texts => ofTexts backward texts
    | place, _ => ofRegex backward first .first ++ place.join ++ ofRegex backward rest place.next

/-- The states that skip bytes before a match, unless all matches are anchored. -/
def search (anchored : Bool) : Growth :=
  if anchored then state else fork ++ state ++ listState stepBytes

end Growth

/-- Every match starts at the start of the subject. -/
def startsAnchored : Regex → Bool
  | .assertion condition => condition = .textStart
  | .group _ body => startsAnchored body
  | .repeated _ least _ body => 0 < least && startsAnchored body
  | .seq first rest =>
    startsAnchored first || (first.maxLength == some 0 && startsAnchored rest)
  | .alt first rest => startsAnchored first && startsAnchored rest
  | _ => false

/-- Every match ends at the end of the subject. -/
def endsAnchored : Regex → Bool
  | .assertion condition => condition = .textEnd
  | .group _ body => endsAnchored body
  | .repeated _ least _ body => 0 < least && endsAnchored body
  | .seq first rest => endsAnchored rest || (rest.maxLength == some 0 && endsAnchored first)
  | .alt first rest => endsAnchored first && endsAnchored rest
  | _ => false

/-- The states of a whole expression; reading forward they also mark where a match starts and
ends. -/
def growth (backward : Bool) (expression : Regex) : Growth :=
  let body := Growth.ofRegex backward expression .first
  if backward then Growth.search (endsAnchored expression) ++ body ++ Growth.state
  else
    Growth.search (startsAnchored expression) ++ Growth.state ++ body ++ Growth.state ++ Growth.state

/-- The automata of an expression are within the limit. -/
def fits (expression : Regex) : Bool :=
  ((growth false expression).addTo ⟨0, 0⟩).isSome && ((growth true expression).addTo ⟨0, 0⟩).isSome

end Stencil.Regex
