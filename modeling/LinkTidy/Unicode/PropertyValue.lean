import LinkTidy.Unicode.Age
import LinkTidy.Unicode.Boundary
import LinkTidy.Unicode.ScriptExtension
/-!
Character properties that have values, by the names of property and value.
-/

set_option autoImplicit false

namespace LinkTidy.Unicode.Property

open ScriptExtension

/-- The characters that a script uses. Those that some script borrows belong to no group shared by all. -/
def scriptExtension? (name : Text) : Option CharSet := do
  let own ← find? Script.scripts name
  if own = Script.common ∨ own = Script.inherited then some (.diff (.table own) borrowedBySome)
  else some (.union (.table own) (((find? borrowed name).map .table).getD .empty))

def valued : List (List String × (Text → Option CharSet)) :=
  [
    (["gc", "generalcategory"], find? categories),
    (["sc", "script"], fun name => (find? Script.scripts name).map .table),
    (["scx", "scriptextensions"], scriptExtension?),
    (["age"], fun name => Age.upTo? name Age.versions),
    (["gcb", "graphemeclusterbreak"], find? Boundary.graphemes),
    (["wb", "wordbreak"], find? Boundary.words),
    (["sb", "sentencebreak"], find? Boundary.sentences)]

def lookupValue (name value : Text) : Option CharSet := do
  let setOf ← find? valued (normalize name)
  setOf (normalize value)

end LinkTidy.Unicode.Property
