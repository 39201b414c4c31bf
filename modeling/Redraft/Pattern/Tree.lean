namespace Redraft.Pattern

inductive Flag where
  | caseInsensitive
  | multiLine
  | dotMatchesNewLine
  | swapGreed
  | unicode
  | crlf
  | ignoreWhitespace
deriving DecidableEq, Repr

def Flag.ofLetter? : Char → Option Flag
  | 'i' => some caseInsensitive
  | 'm' => some multiLine
  | 's' => some dotMatchesNewLine
  | 'U' => some swapGreed
  | 'u' => some unicode
  | 'R' => some crlf
  | 'x' => some ignoreWhitespace
  | _ => none

/-- Flags in the order written; those after the sign are switched off. -/
inductive FlagItem where
  | negation
  | flag (flag : Flag)
deriving DecidableEq, Repr

def FlagItem.position? (flag : Flag) : List FlagItem → (enable : Bool) → Option Bool
  | [], _ => none
  | .negation :: items, _ => position? flag items false
  | .flag other :: items, enable =>
    if other = flag then some enable else position? flag items enable

inductive Assertion where
  | startLine
  | endLine
  | startText
  | endText
  | wordBoundary
  | notWordBoundary
  | wordStart
  | wordEnd
  | wordStartHalf
  | wordEndHalf
deriving DecidableEq, Repr

/-- A single character. `asByte` if it is written as two hexadecimal digits, which may name
a byte instead. -/
structure Literal where
  char : Char
  asByte : Bool := false
deriving DecidableEq, Repr

inductive PerlClass where
  | digit
  | space
  | word
deriving DecidableEq, Repr

inductive Property where
  | named (name : List Char)
  | valued (name value : List Char)
deriving DecidableEq, Repr

inductive SetOperation where
  | intersection
  | difference
  | symmetricDifference
deriving DecidableEq, Repr

inductive SetTree where
  | literal (literal : Literal)
  | range (first last : Literal)
  | ascii (ranges : List (Char × Char)) (negated : Bool)
  | perl (cls : PerlClass) (negated : Bool)
  | property (property : Property) (negated : Bool)
  | bracketed (negated : Bool) (body : SetTree)
  | union (items : List SetTree)
  | operation (operation : SetOperation) (left right : SetTree)

inductive Tree where
  | empty
  | flags (items : List FlagItem)
  | literal (literal : Literal)
  | dot
  | assertion (assertion : Assertion)
  | perl (cls : PerlClass) (negated : Bool)
  | property (property : Property) (negated : Bool)
  | bracketed (negated : Bool) (body : SetTree)
  | repetition (min : Nat) (max : Option Nat) (greedy : Bool) (body : Tree)
  /-- A group that remembers what it matched; they are numbered from one. -/
  | capture (index : Nat) (body : Tree)
  | group (flags : List FlagItem) (body : Tree)
  | concat (items : List Tree)
  | alternation (branches : List Tree)

def SetTree.ofItems : List SetTree → SetTree
  | [item] => item
  | items => .union items

def Tree.ofItems : List Tree → Tree
  | [] => .empty
  | [item] => item
  | items => .concat items

def Tree.ofBranches : List Tree → Tree
  | [branch] => branch
  | branches => .alternation branches

mutual

def SetTree.depth : SetTree → Nat
  | .bracketed _ body => body.depth + 1
  | .union [] => 0
  | .union (item :: items) => max item.depth (SetTree.maxDepth items) + 1
  | .operation _ left right => max left.depth right.depth + 1
  | _ => 0

def SetTree.maxDepth : List SetTree → Nat
  | [] => 0
  | item :: items => max item.depth (maxDepth items)

end

mutual

def Tree.depth : Tree → Nat
  | .bracketed _ body => body.depth + 1
  | .repetition _ _ _ body => body.depth + 1
  | .capture _ body => body.depth + 1
  | .group _ body => body.depth + 1
  | .concat items => Tree.maxDepth items + 1
  | .alternation branches => Tree.maxDepth branches + 1
  | _ => 0

def Tree.maxDepth : List Tree → Nat
  | [] => 0
  | item :: items => max item.depth (maxDepth items)

end

def asciiSets : List (String × List (Char × Char)) := [
  ("alnum", [('0', '9'), ('A', 'Z'), ('a', 'z')]),
  ("alpha", [('A', 'Z'), ('a', 'z')]),
  ("ascii", [('\x00', '\x7f')]),
  ("blank", [('\t', '\t'), (' ', ' ')]),
  ("cntrl", [('\x00', '\x1f'), ('\x7f', '\x7f')]),
  ("digit", [('0', '9')]),
  ("graph", [('!', '~')]),
  ("lower", [('a', 'z')]),
  ("print", [(' ', '~')]),
  ("punct", [('!', '/'), (':', '@'), ('[', '\x60'), ('\x7b', '~')]),
  ("space", [('\t', '\r'), (' ', ' ')]),
  ("upper", [('A', 'Z')]),
  ("word", [('0', '9'), ('A', 'Z'), ('_', '_'), ('a', 'z')]),
  ("xdigit", [('0', '9'), ('A', 'F'), ('a', 'f')])]

end Redraft.Pattern
