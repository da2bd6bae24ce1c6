import LinkTidy.Unicode.CharSet
/-!
The written form of a regular expression as a tree: what a pattern says, before flags give its parts their meaning.
Whether a repetition prefers many or few rounds is not kept, because it never decides whether a text matches.
-/

set_option autoImplicit false

namespace LinkTidy.Regex

open LinkTidy.Unicode

/-- A character of a pattern. `byte` marks the two-digit form that can stand for a single byte. -/
structure Literal where
  char : Char
  byte : Bool := false
deriving DecidableEq, Repr

inductive ShortClass where
  | digit | space | word
deriving DecidableEq, Repr

inductive Place where
  | lineStart | lineEnd | textStart | textEnd
  | wordEdge | noWordEdge | wordStart | wordEnd | wordStartHalf | wordEndHalf
deriving DecidableEq, Repr

inductive SetOperator where
  | intersection | difference | symmetricDifference
deriving DecidableEq, Repr

inductive Bracket where
  | nothing
  | literal (l : Literal)
  | range (low high : Literal)
  | ascii (negated : Bool) (set : CharSet)
  | short (negated : Bool) (kind : ShortClass)
  | property (negated : Bool) (set : CharSet)
  | nested (negated : Bool) (inside : Bracket)
  | union (a b : Bracket)
  | operation (kind : SetOperator) (a b : Bracket)
deriving DecidableEq, Repr

/-- The flags that an inline group sets or clears; `none` leaves a flag as it is. -/
structure FlagChange where
  ignoreCase : Option Bool := none
  multiLine : Option Bool := none
  dotAll : Option Bool := none
  unicode : Option Bool := none
  crlf : Option Bool := none
  ignoreSpace : Option Bool := none
deriving DecidableEq, Repr

inductive Tree where
  | empty
  | setFlags (change : FlagChange)
  | literal (l : Literal)
  | dot
  | place (p : Place)
  | short (negated : Bool) (kind : ShortClass)
  | property (negated : Bool) (set : CharSet)
  | bracket (negated : Bool) (inside : Bracket)
  | repetition (least : Nat) (most : Option Nat) (body : Tree)
  | group (change : FlagChange) (body : Tree)
  | sequence (a b : Tree)
  | choice (a b : Tree)
deriving DecidableEq, Repr

/-- Joins parts that were read one after another, the last one first. -/
def Tree.ofParts : List Tree → Tree
  | [] => .empty
  | [part] => part
  | part :: earlier => .sequence (Tree.ofParts earlier) part

/-- Joins the branches of a choice, the last one first. -/
def Tree.ofBranches : List Tree → Tree
  | [] => .empty
  | [branch] => branch
  | branch :: earlier => .choice (Tree.ofBranches earlier) branch

/-- Joins the items of a class, the last one first. -/
def Bracket.ofItems : List Bracket → Bracket
  | [] => .nothing
  | [item] => item
  | item :: earlier => .union (Bracket.ofItems earlier) item

/-- Nesting below a class. A run of items counts once: `inRun` says that it has been counted. -/
def Bracket.depth (inRun : Bool) : Bracket → Nat
  | .nested _ inside => 1 + inside.depth false
  | .operation _ a b => 1 + max (a.depth false) (b.depth false)
  | .union a b =>
      let deepest := max (a.depth true) (b.depth false)
      if inRun then deepest else 1 + deepest
  | _ => 0

inductive Run where
  | none | parts | branches
deriving DecidableEq

/-- Nesting of a tree. A run of parts, and one of branches, counts once. -/
def Tree.depth (run : Run) : Tree → Nat
  | .bracket _ inside => 1 + inside.depth false
  | .repetition _ _ body => 1 + body.depth .none
  | .group _ body => 1 + body.depth .none
  | .sequence a b =>
      let deepest := max (a.depth .parts) (b.depth .none)
      if run = .parts then deepest else 1 + deepest
  | .choice a b =>
      let deepest := max (a.depth .branches) (b.depth .none)
      if run = .branches then deepest else 1 + deepest
  | _ => 0

def maxDepth : Nat := 250

end LinkTidy.Regex
