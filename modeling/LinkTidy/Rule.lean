import LinkTidy.Matcher
import LinkTidy.Url.Query
/-!
Rules that remove query pairs. A general rule applies to every address, a specific one to the addresses whose original
text its domain matcher accepts.
-/

set_option autoImplicit false

namespace LinkTidy

inductive Rule where
  | general (param : Matcher)
  | specific (domain param : Matcher)
deriving DecidableEq

namespace Rule

def param : Rule → Matcher
  | .general param => param
  | .specific _ param => param

def domain : Rule → Option Matcher
  | .general _ => none
  | .specific domain _ => some domain

def admits : Rule → Text → Bool
  | .general _, _ => true
  | .specific domain _, original => domain.accepts original

def apply (rule : Rule) (model : UrlModel) : UrlModel × Bool :=
  if rule.admits model.url.original then model.removePairs rule.param.accepts else (model, false)

/-- How a rule is shown. Rules that are shown alike count as one rule. -/
def display : Rule → Text
  | .general param => "General: ".toList ++ param.display
  | .specific domain param => "Specific: [".toList ++ domain.display ++ "] - ".toList ++ param.display

def applyAll (rules : List Rule) (model : UrlModel) : UrlModel × Nat :=
  rules.foldl
    (fun (model, hits) rule =>
      let (next, hit) := rule.apply model
      (next, if hit then hits + 1 else hits))
    (model, 0)

end Rule
end LinkTidy
