import LinkTidy.Text
import LinkTidy.Regex.Expr
/-!
Searching a text. A set of places between the characters of a text is a number whose bit `i` says whether place `i`
belongs to it; an expression carries a set of places to the set of places that its matches can end at.
-/

set_option autoImplicit false

namespace LinkTidy.Regex

open LinkTidy.Unicode

abbrev Places := Nat

def allPlaces (n : Nat) : Places :=
  Nat.pow 2 (n + 1) - 1

def placesBefore (test : Char → Bool) : Text → Places
  | [] => 0
  | c :: rest => 2 * placesBefore test rest + (if test c then 1 else 0)

/-- The places whose neighbours satisfy a test; `before` is the character before the text. -/
def placesBetween (test : Option Char → Option Char → Bool) (before : Option Char) : Text → Places
  | [] => if test before none then 1 else 0
  | c :: rest => 2 * placesBetween test (some c) rest + (if test before (some c) then 1 else 0)

def isWordOf (ascii : Bool) (c : Char) : Bool :=
  if ascii then asciiWord.mem c else isWord c

def EdgeKind.holds : EdgeKind → Bool → Bool → Bool
  | .edge, before, after => before != after
  | .noEdge, before, after => before == after
  | .start, before, after => !before && after
  | .stop, before, after => before && !after
  | .startHalf, before, _ => !before
  | .stopHalf, _, after => !after

def Anchor.holds : Anchor → Option Char → Option Char → Bool
  | .textStart, before, _ => before.isNone
  | .textEnd, _, after => after.isNone
  | .lineStart, before, _ => before.all (· == '\n')
  | .lineEnd, _, after => after.all (· == '\n')
  | .lineStartCrlf, before, after =>
      before.all fun c => c == '\n' || (c == '\r' && after != some '\n')
  | .lineEndCrlf, before, after =>
      after.all fun c => c == '\r' || (c == '\n' && before != some '\r')
  | .word kind ascii, before, after => kind.holds (before.any (isWordOf ascii)) (after.any (isWordOf ascii))

/-- An expression laid over one text: sets of characters and conditions have become sets of places. -/
inductive Plan where
  | stay
  | step (places : Places)
  | check (places : Places)
  | repetition (least : Nat) (most : Option Nat) (body : Plan)
  | sequence (a b : Plan)
  | choice (a b : Plan)
deriving DecidableEq, Repr

def Expr.plan (text : Text) : Expr → Plan
  | .empty => .stay
  | .chars set => .step (placesBefore set.mem text)
  | .anchor a => .check (placesBetween a.holds none text)
  | .repetition least most body => .repetition least most (body.plan text)
  | .sequence a b => .sequence (a.plan text) (b.plan text)
  | .choice a b => .choice (a.plan text) (b.plan text)

def iterate (step : Places → Places) : Nat → Places → Places
  | 0, places => places
  | n + 1, places => iterate step n (step places)

/-- Adds what up to `n` steps reach, and stops when a step adds nothing. -/
def spread (step : Places → Places) : Nat → Places → Places
  | 0, places => places
  | n + 1, places =>
      let wider := places ||| step places
      if wider = places then places else spread step n wider

def Plan.run (length : Nat) : Plan → Places → Places
  | .stay, places => places
  | .step allowed, places => 2 * (places &&& allowed)
  | .check allowed, places => places &&& allowed
  | .repetition least most body, places =>
      let rounds := match most with
        | some most => most - least
        | none => length + 1
      spread (body.run length) rounds (iterate (body.run length) least places)
  | .sequence a b, places => b.run length (a.run length places)
  | .choice a b, places => a.run length places ||| b.run length places

def Expr.matchesIn (e : Expr) (text : Text) : Bool :=
  (e.plan text).run text.length (allPlaces text.length) != 0

end LinkTidy.Regex
