import LinkTidy.FilterList.Clause
import LinkTidy.Rule
import LinkTidy.Unicode.Blank
/-!
Filter lists: every line that removes parameters becomes rules, one for each pair of a domain and a parameter.
-/

set_option autoImplicit false

namespace LinkTidy.FilterList

def isBlankText (text : Text) : Bool :=
  text.all Unicode.isBlank

/-- The rules of one line; `none` if it is blank, a comment, or removes no parameters. -/
def compileLine (line : Text) : Option (List Rule) :=
  if isBlankText line || line.head? == some '!' then none
  else (clauses? line).map fun (domain, param) =>
    let params := paramMatchers param
    if isBlankText domain then params.map .general
    else (domainMatchers domain).flatMap fun domain => params.map (.specific domain)

def compile (text : Text) : List Rule :=
  (lines text).flatMap fun line => (compileLine line).getD []

end LinkTidy.FilterList
