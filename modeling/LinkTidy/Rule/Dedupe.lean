import LinkTidy.Rule
/-!
Removing repeated rules. Of the rules that are shown alike the first is kept.
-/

set_option autoImplicit false

namespace LinkTidy.Rule

/-- The rules whose display is neither in `seen` nor that of an earlier one. -/
def dedupeAfter (seen : List Text) : List Rule → List Rule
  | [] => []
  | rule :: rest =>
      if seen.contains rule.display then dedupeAfter seen rest
      else rule :: dedupeAfter (rule.display :: seen) rest

def dedupe (rules : List Rule) : List Rule :=
  dedupeAfter [] rules

def repeatsAfter (seen : List Text) : List Rule → Nat
  | [] => 0
  | rule :: rest =>
      if seen.contains rule.display then repeatsAfter seen rest + 1
      else repeatsAfter (rule.display :: seen) rest

structure DedupeStats where
  before : Nat
  after : Nat
  removed : Nat
deriving DecidableEq, Repr

def dedupeStats (rules : List Rule) : DedupeStats where
  before := rules.length
  after := (dedupe rules).length
  removed := repeatsAfter [] rules

end LinkTidy.Rule
