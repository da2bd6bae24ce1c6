import LinkTidy.Regex.Pattern
/-!
Matchers: tests on a text by which rules choose query pairs and addresses.
-/

set_option autoImplicit false

namespace LinkTidy

def queryKey (pair : Text) : Text :=
  pair.takeWhile (· != '=')

inductive Matcher where
  /-- The text occurs somewhere. -/
  | literal (text : Text)
  /-- The key of the pair is the text. -/
  | token (text : Text)
  /-- The pattern matches somewhere. -/
  | pattern (p : Regex.Pattern)
deriving DecidableEq

namespace Matcher

def accepts : Matcher → Text → Bool
  | .literal text, input => occursIn text input
  | .token text, input => queryKey input == text
  | .pattern p, input => p.matchesIn input

def source : Matcher → Text
  | .literal text => text
  | .token text => text
  | .pattern p => p.source

def display : Matcher → Text
  | .literal text => '"' :: text ++ ['"']
  | .token text => '"' :: text ++ ['"']
  | .pattern p => '/' :: p.source ++ ['/']

end Matcher
end LinkTidy
