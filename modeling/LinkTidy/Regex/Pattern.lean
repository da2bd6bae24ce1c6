import LinkTidy.Regex.Search
import LinkTidy.Regex.Tree.Parser
/-!
Patterns: regular expressions together with the text that they were written as. Matching ignores case unless the
pattern says otherwise.
-/

set_option autoImplicit false

namespace LinkTidy.Regex

def Expr.ofPattern? (pattern : Text) : Option Expr := do
  let tree ← Tree.ofPattern? pattern
  let (e, _) ← Expr.ofTree? {} tree
  if e.size ≤ maxSize then some e else none

/-- A pattern that was accepted. Its expression is the one that its text writes, so patterns of the same text are
equal. -/
structure Pattern where
  source : Text
  expr : Expr
  written : Expr.ofPattern? source = some expr

theorem Pattern.ext_source {a b : Pattern} (same : a.source = b.source) : a = b := by
  obtain ⟨source, expr, written⟩ := a
  obtain ⟨source', expr', written'⟩ := b
  cases same
  cases Option.some.inj (written.symm.trans written')
  rfl

instance : DecidableEq Pattern := fun a b =>
  if same : a.source = b.source then .isTrue (Pattern.ext_source same)
  else .isFalse fun equal => same (congrArg Pattern.source equal)

namespace Pattern

def ofText? (source : Text) : Option Pattern :=
  match written : Expr.ofPattern? source with
  | some expr => some ⟨source, expr, written⟩
  | none => none

def matchesIn (p : Pattern) (text : Text) : Bool :=
  p.expr.matchesIn text

def escape (text : Text) : Text :=
  text.flatMap fun c => if isMeta c then ['\\', c] else [c]

end Pattern
end LinkTidy.Regex
