import LinkTidy.Unicode.CaseFold
import LinkTidy.Unicode.Ranges
/-!
Sets of characters as expressions, with the membership test that gives them their meaning.
-/

set_option autoImplicit false

namespace LinkTidy.Unicode

inductive CharSet where
  | range (low high : Char)
  | table (ranges : Ranges)
  | empty
  | compl (s : CharSet)
  | union (a b : CharSet)
  | inter (a b : CharSet)
  | folded (s : CharSet)
deriving DecidableEq, Repr

namespace CharSet

def single (c : Char) : CharSet :=
  .range c c

def any : CharSet :=
  .compl .empty

def diff (a b : CharSet) : CharSet :=
  .inter a (.compl b)

/-- What lies in exactly one of the two sets. -/
def symmDiff (a b : CharSet) : CharSet :=
  .union (a.diff b) (b.diff a)

def unions (sets : List CharSet) : CharSet :=
  sets.foldr .union .empty

/-- Membership. `folded s` holds what equals a member of `s` up to case. -/
def mem : CharSet → Char → Bool
  | .range low high, c => low.toNat ≤ c.toNat && c.toNat ≤ high.toNat
  | .table ranges, c => covers ranges c.toNat
  | .empty, _ => false
  | .compl s, c => !s.mem c
  | .union a b, c => a.mem c || b.mem c
  | .inter a b, c => a.mem c && b.mem c
  | .folded s, c => (caseVariants c).any s.mem

/-- Whether the form of a set shows that it holds ASCII characters only. The letters `k` and `s` have cases outside
ASCII. -/
def isAscii : CharSet → Bool
  | .range _ high => high.toNat < 128
  | .table ranges => ranges.all (· < 128)
  | .empty => true
  | .compl _ => false
  | .union a b => a.isAscii && b.isAscii
  | .inter a b => a.isAscii || b.isAscii
  | .folded s => s.isAscii && ['k', 'K', 's', 'S'].all fun c => !s.mem c

/-- An estimate of the number of ranges that make up the set. -/
def weight : CharSet → Nat
  | .range _ _ => 1
  | .table ranges => ranges.length / 2
  | .empty => 0
  | .compl s => s.weight + 14
  | .union a b => a.weight + b.weight
  | .inter a b => max a.weight b.weight
  | .folded (.range low high) => if low = high then (caseVariants low).length else 4
  | .folded s => s.weight + 2

end CharSet
end LinkTidy.Unicode
