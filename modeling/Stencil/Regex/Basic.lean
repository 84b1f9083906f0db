import Stencil.Text.Basic
import Stencil.Text.InversionList

/-!
# Regular expressions

An expression is kept in a normal form: neighbouring literals are one literal, sequences and
alternatives are not nested in themselves, alternatives that are all single characters or all sets
are one set, and a common start of all alternatives stands in front of them.  The functions
`seqAll`, `altAll`, `ofSet` and `times` build expressions in this form.
-/

namespace Stencil.Regex

/-- A condition on a place between two characters.  The flag of a condition on words says that
words are those of Unicode and not only of ASCII. -/
inductive Assertion where
  /-- The start of the subject. -/
  | textStart
  /-- The end of the subject. -/
  | textEnd
  /-- The start of a line. -/
  | lineStart
  /-- The end of a line. -/
  | lineEnd
  /-- The start of a line, where a carriage return may end lines too. -/
  | returnStart
  /-- The end of a line, where a carriage return may end lines too. -/
  | returnEnd
  /-- A change between characters inside and outside of words. -/
  | boundary (unicode : Bool)
  /-- No such change. -/
  | noBoundary (unicode : Bool)
  /-- The start of a word. -/
  | wordStart (unicode : Bool)
  /-- The end of a word. -/
  | wordEnd (unicode : Bool)
  /-- No word character before the place. -/
  | wordStartHalf (unicode : Bool)
  /-- No word character after the place. -/
  | wordEndHalf (unicode : Bool)
  deriving DecidableEq

end Stencil.Regex

namespace Stencil

/-- A regular expression. -/
inductive Regex where
  /-- The empty text. -/
  | empty
  /-- A nonempty text. -/
  | literal (text : Text)
  /-- One character of a set. -/
  | set (members : InversionList)
  /-- The empty text at a place with a condition. -/
  | assertion (condition : Regex.Assertion)
  /-- A group with its number. -/
  | group (number : Nat) (body : Regex)
  /-- An expression at least and at most so many times; the flag says that many are better. -/
  | repeated (greedy : Bool) (least : Nat) (most : Option Nat) (body : Regex)
  /-- One expression after the other. -/
  | seq (first rest : Regex)
  /-- Either of two expressions. -/
  | alt (first rest : Regex)
  deriving DecidableEq

namespace Regex

/-! ## Lengths -/

/-- The number of bytes that a character takes in UTF-8. -/
def byteCount (n : Nat) : Nat :=
  if n < 0x80 then 1 else if n < 0x800 then 2 else if n < 0x10000 then 3 else 4

/-- The length of the shortest match in bytes; none if there may be no match. -/
def minLength : Regex → Option Nat
  | .empty => some 0
  | .literal text => some text.byteSize
  | .set members => members.bounds.head?.map byteCount
  | .assertion _ => some 0
  | .group _ body => body.minLength
  | .repeated _ least _ body => body.minLength.map (least * ·)
  | .seq first rest =>
    match first.minLength, rest.minLength with
    | some a, some b => some (a + b)
    | _, _ => none
  | .alt first rest =>
    match first.minLength, rest.minLength with
    | some a, some b => some (min a b)
    | _, _ => none

/-- The length of the longest match in bytes; none if there is no longest match. -/
def maxLength : Regex → Option Nat
  | .empty => some 0
  | .literal text => some text.byteSize
  | .set members => members.bounds.getLast?.map fun bound => byteCount (bound - 1)
  | .assertion _ => some 0
  | .group _ body => body.maxLength
  | .repeated _ _ most body =>
    match most, body.maxLength with
    | some most, some length => some (most * length)
    | _, _ => none
  | .seq first rest =>
    match first.maxLength, rest.maxLength with
    | some a, some b => some (a + b)
    | _, _ => none
  | .alt first rest =>
    match first.maxLength, rest.maxLength with
    | some a, some b => some (max a b)
    | _, _ => none

/-! ## Normal forms -/

/-- One character of a set; a single character is a literal. -/
def ofSet (members : InversionList) : Regex :=
  match members.onlyMember? with
  | some n => .literal [Char.ofNat n]
  | none => .set members

/-- An expression repeated.  If it matches only the empty text, once is as good as many times. -/
def times (greedy : Bool) (least : Nat) (most : Option Nat) (body : Regex) : Regex :=
  let (least, most) :=
    if body.maxLength = some 0 then (min least 1, some (min (most.getD 1) 1)) else (least, most)
  match least, most with
  | 0, some 0 => .empty
  | 1, some 1 => body
  | least, most => .repeated greedy least most body

/-- The parts of a sequence. -/
def parts : Regex → List Regex
  | .empty => []
  | .seq first rest => first :: rest.parts
  | expression => [expression]

/-- The parts with neighbouring literals joined. -/
def joinLiterals : List Regex → List Regex
  | [] => []
  | .literal text :: rest =>
    match joinLiterals rest with
    | .literal more :: rest => .literal (text ++ more) :: rest
    | rest => .literal text :: rest
  | part :: rest => part :: joinLiterals rest

/-- The sequence with given parts. -/
def ofParts : List Regex → Regex
  | [] => .empty
  | [part] => part
  | part :: rest => .seq part (ofParts rest)

/-- Several expressions one after the other. -/
def seqAll (expressions : List Regex) : Regex :=
  ofParts (joinLiterals (expressions.flatMap parts))

/-- The alternatives of an expression. -/
def alternatives : Regex → List Regex
  | .alt first rest => first :: rest.alternatives
  | expression => [expression]

/-- The expression with given alternatives; without any it matches nothing. -/
def ofAlternatives : List Regex → Regex
  | [] => .set .none
  | [expression] => expression
  | expression :: rest => .alt expression (ofAlternatives rest)

/-- The code point of a literal of one character. -/
def singleChar? : Regex → Option Nat
  | .literal [c] => some c.toNat
  | _ => none

/-- The set of an expression that is one. -/
def set? : Regex → Option InversionList
  | .set members => some members
  | _ => none

/-- The expression is a sequence. -/
def isSeq : Regex → Bool
  | .seq _ _ => true
  | _ => false

/-- What two lists start with in common. -/
def commonStart : List Regex → List Regex → List Regex
  | a :: as, b :: bs => if a = b then a :: commonStart as bs else []
  | _, _ => []

/-- What all of some lists start with in common. -/
def commonStartAll : List (List Regex) → List Regex
  | [] => []
  | first :: rest => rest.foldl commonStart first

/-- The number of constructors of an expression. -/
def size : Regex → Nat
  | .group _ body => body.size + 1
  | .repeated _ _ _ body => body.size + 1
  | .seq first rest => first.size + rest.size + 1
  | .alt first rest => first.size + rest.size + 1
  | _ => 1

/-- Either of several expressions.  The fuel bounds how often a common start is taken out. -/
def altWithin : Nat → List Regex → Regex
  | 0, expressions => ofAlternatives expressions
  | fuel + 1, expressions =>
    let choices := expressions.flatMap alternatives
    if choices.length ≤ 1 then ofAlternatives choices
    else
      match choices.mapM singleChar?, choices.mapM set? with
      | some points, _ => ofSet (.ofPoints points)
      | none, some sets => ofSet (sets.foldl InversionList.union .none)
      | none, none =>
        let rows := choices.map parts
        let common := commonStartAll rows
        if choices.all isSeq && !common.isEmpty then
          let rests := rows.map fun row => seqAll (row.drop common.length)
          seqAll (common ++ [altWithin fuel rests])
        else ofAlternatives choices

/-- Either of several expressions. -/
def altAll (expressions : List Regex) : Regex :=
  altWithin (expressions.foldr (fun expression fuel => expression.size + fuel) 1) expressions

end Regex

end Stencil
