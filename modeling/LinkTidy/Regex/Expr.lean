import LinkTidy.Regex.Tree
import LinkTidy.Unicode.Blank
import LinkTidy.Unicode.Category
import LinkTidy.Unicode.Word
/-!
Regular expressions with their flags applied: sets of characters, conditions on places, and what is built from them.
A tree is refused where its flags leave a part without a meaning, and where the expression would grow too large.
-/

set_option autoImplicit false

namespace LinkTidy.Regex

open LinkTidy.Unicode

/-- The edge of a word that a place may be: on both sides alike or not, or by the side that is looked at. -/
inductive EdgeKind where
  | edge | noEdge | start | stop | startHalf | stopHalf
deriving DecidableEq, Repr

/-- A condition on a place of the text. `ascii` restricts word characters to ASCII. -/
inductive Anchor where
  | textStart | textEnd
  | lineStart | lineEnd
  | lineStartCrlf | lineEndCrlf
  | word (kind : EdgeKind) (ascii : Bool)
deriving DecidableEq, Repr

inductive Expr where
  | empty
  | chars (set : CharSet)
  | anchor (a : Anchor)
  | repetition (least : Nat) (most : Option Nat) (body : Expr)
  | sequence (a b : Expr)
  | choice (a b : Expr)
deriving DecidableEq, Repr

structure Flags where
  ignoreCase : Bool := true
  multiLine : Bool := false
  dotAll : Bool := false
  unicode : Bool := true
  crlf : Bool := false
deriving DecidableEq, Repr

def Flags.apply (flags : Flags) (change : FlagChange) : Flags where
  ignoreCase := change.ignoreCase.getD flags.ignoreCase
  multiLine := change.multiLine.getD flags.multiLine
  dotAll := change.dotAll.getD flags.dotAll
  unicode := change.unicode.getD flags.unicode
  crlf := change.crlf.getD flags.crlf

def asciiDigit : CharSet := .range '0' '9'

def asciiBlank : CharSet := .union (.range '\t' '\r') (.single ' ')

def asciiWord : CharSet := .unions [asciiDigit, .range 'A' 'Z', .single '_', .range 'a' 'z']

def ShortClass.set (unicode : Bool) : ShortClass → CharSet
  | .digit => if unicode then .table decimalNumber else asciiDigit
  | .space => if unicode then .table blankRanges else asciiBlank
  | .word => if unicode then .table wordRanges else asciiWord

/-- The ASCII letters of either case, where a set holds one of them. -/
def foldAscii (set : CharSet) : CharSet :=
  let fromLower := (List.range 26).filter fun i => set.mem (Char.ofNat ('a'.toNat + i))
  let fromUpper := (List.range 26).filter fun i => set.mem (Char.ofNat ('A'.toNat + i))
  .union set (.unions ((fromLower.map fun i => .single (Char.ofNat ('A'.toNat + i))) ++
    fromUpper.map fun i => .single (Char.ofNat ('a'.toNat + i))))

def Flags.fold (flags : Flags) (set : CharSet) : CharSet :=
  if flags.ignoreCase then
    if flags.unicode then .folded set else foldAscii set
  else set

/-- A set or its complement. Without Unicode a complement would hold single bytes that are no characters. -/
def Flags.complement? (flags : Flags) (negated : Bool) (set : CharSet) : Option CharSet :=
  if negated then
    if flags.unicode then some (.compl set) else none
  else some set

def Flags.member? (flags : Flags) (l : Literal) : Option Char :=
  if flags.unicode || l.char.toNat < 128 then some l.char else none

def SetOperator.apply (kind : SetOperator) (a b : CharSet) : CharSet :=
  match kind with
  | .intersection => .inter a b
  | .difference => a.diff b
  | .symmetricDifference => a.symmDiff b

/-- The set that the inside of a class stands for. Nested classes and both sides of an operator are folded for
themselves; the outermost class is folded by its user. -/
def Bracket.set? (flags : Flags) : Bracket → Option CharSet
  | .nothing => some .empty
  | .literal l => (flags.member? l).map .single
  | .range low high => do some (.range (← flags.member? low) (← flags.member? high))
  | .ascii negated set => flags.complement? negated (flags.fold set)
  | .short negated kind => flags.complement? negated (kind.set flags.unicode)
  | .property negated set => if flags.unicode then flags.complement? negated (flags.fold set) else none
  | .nested negated inside => (inside.set? flags).bind fun set => flags.complement? negated (flags.fold set)
  | .union a b => do some (.union (← a.set? flags) (← b.set? flags))
  | .operation kind a b => do
      let left ← a.set? flags
      let right ← b.set? flags
      some (kind.apply (flags.fold left) (flags.fold right))

def Flags.dot? (flags : Flags) : Option CharSet :=
  if !flags.unicode then none
  else if flags.dotAll then some .any
  else if flags.crlf then some (.compl (.union (.single '\n') (.single '\r')))
  else some (.compl (.single '\n'))

/-- A character outside brackets. Without Unicode a byte outside ASCII is no character, and other characters outside
ASCII have no case. -/
def Flags.literal? (flags : Flags) (l : Literal) : Option CharSet :=
  if flags.unicode then some (flags.fold (.single l.char))
  else if l.byte && 128 ≤ l.char.toNat then none
  else some (flags.fold (.single l.char))

def Flags.anchor (flags : Flags) : Place → Anchor
  | .lineStart => if flags.multiLine then (if flags.crlf then .lineStartCrlf else .lineStart) else .textStart
  | .lineEnd => if flags.multiLine then (if flags.crlf then .lineEndCrlf else .lineEnd) else .textEnd
  | .textStart => .textStart
  | .textEnd => .textEnd
  | .wordEdge => .word .edge (!flags.unicode)
  | .noWordEdge => .word .noEdge (!flags.unicode)
  | .wordStart => .word .start (!flags.unicode)
  | .wordEnd => .word .stop (!flags.unicode)
  | .wordStartHalf => .word .startHalf (!flags.unicode)
  | .wordEndHalf => .word .stopHalf (!flags.unicode)

def Expr.isEmptyOnly : Expr → Bool
  | .empty | .anchor _ => true
  | .chars _ => false
  | .repetition _ most body => most == some 0 || body.isEmptyOnly
  | .sequence a b | .choice a b => a.isEmptyOnly && b.isEmptyOnly

/-- Repeats an expression. More than one round adds nothing to an expression that only matches the empty text. -/
def Expr.repeated (least : Nat) (most : Option Nat) (body : Expr) : Expr :=
  if body.isEmptyOnly then .repetition (min least 1) (some ((most.map (min · 1)).getD 1)) body
  else .repetition least most body

def Expr.ofTree? (flags : Flags) : Tree → Option (Expr × Flags)
  | .empty => some (.empty, flags)
  | .setFlags change => some (.empty, flags.apply change)
  | .literal l => (flags.literal? l).map fun set => (.chars set, flags)
  | .dot => flags.dot?.map fun set => (.chars set, flags)
  | .place p => some (.anchor (flags.anchor p), flags)
  | .short negated kind => (flags.complement? negated (kind.set flags.unicode)).map fun set => (.chars set, flags)
  | .property negated set =>
      if flags.unicode then (flags.complement? negated (flags.fold set)).map fun set => (.chars set, flags) else none
  | .bracket negated inside => do
      let set ← flags.complement? negated (flags.fold (← inside.set? flags))
      some (.chars set, flags)
  | .repetition least most body => (ofTree? flags body).map fun (e, after) => (.repeated least most e, after)
  | .group change body => (ofTree? (flags.apply change) body).map fun (e, _) => (e, flags)
  | .sequence a b => do
      let (first, middle) ← ofTree? flags a
      let (second, after) ← ofTree? middle b
      some (.sequence first second, after)
  | .choice a b => do
      let (first, middle) ← ofTree? flags a
      let (second, after) ← ofTree? middle b
      some (.choice first second, after)

/-- An estimate of the bytes that the compiled form of an expression takes: 32 for a state, 8 for every range that an
ASCII state tells apart, and 63 for every range that needs the longer codes outside ASCII. -/
def Expr.size : Expr → Nat
  | .empty => 32
  | .anchor _ => 32
  | .chars set =>
      let ranges := set.weight
      if set.isAscii then (if ranges = 1 then 32 else 64 + 8 * ranges) else 64 + 63 * ranges
  | .repetition least most body =>
      match most with
      | none => max least 1 * body.size + 40
      | some most => most * body.size + 40 * (most - least)
  | .sequence a b => a.size + b.size
  | .choice a b => a.size + b.size + 40

def maxSize : Nat := 1048576

end LinkTidy.Regex
