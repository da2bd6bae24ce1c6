import LinkTidy.Matcher
/-!
The clauses of a filter line: the parameters that it removes and the domain that it is limited to, and how the text of
a clause is read as matchers.
-/

set_option autoImplicit false

namespace LinkTidy.FilterList

def isValueChar (c : Char) : Bool :=
  c != ',' && c != '\n'

/-- The value of an option that begins the text, and the text behind it. A value is not empty. -/
def leadingOption? (name text : Text) : Option (Text × Text) :=
  (name.isPrefixOf? text).bind fun behind =>
    let value := behind.takeWhile isValueChar
    if value.isEmpty then none else some (value, behind.dropWhile isValueChar)

def findOption? (name : Text) : Text → Option (Text × Text)
  | [] => none
  | c :: rest =>
      match leadingOption? name (c :: rest) with
      | some found => some found
      | none => findOption? name rest

def isAnchorChar (c : Char) : Bool :=
  c != '^' && c != '$'

/-- The anchor of a line, and the text behind it: the text up to `^` or `$`, without `||` and then `^` in front. Where
nothing would be left, `||` is itself the anchor. -/
def anchor? (line : Text) : Option (Text × Text) :=
  let barred := "||".toList.isPrefixOf? line
  let start := match barred.getD line with
    | '^' :: rest => rest
    | other => other
  let anchor := start.takeWhile isAnchorChar
  if !anchor.isEmpty then some (anchor, start.dropWhile isAnchorChar)
  else barred.map fun behind => ("||".toList, behind)

def domainName : Text := "domain=".toList

def paramName : Text := "removeparam=".toList

/-- The domain of a line. What begins the line, or else its first domain option, names it; a domain option behind that
takes its place. -/
def domainClause (line : Text) : Text :=
  match leadingOption? domainName line <|> anchor? line <|> findOption? domainName line with
  | none => []
  | some (first, behind) =>
      match findOption? domainName behind with
      | none => first
      | some (second, _) => second

def clauses? (line : Text) : Option (Text × Text) :=
  (findOption? paramName line).map fun (param, _) => (domainClause line, param)

def isSlashed (clause : Text) : Bool :=
  2 ≤ clause.length && clause.head? == some '/' && clause.getLast? == some '/'

/-- A text without its first and last byte, if these are characters. -/
def trimEnds? (text : Text) : Option Text :=
  if 2 ≤ text.length ∧ text.head?.all (·.utf8Size = 1) ∧ text.getLast?.all (·.utf8Size = 1) then
    some text.tail.dropLast
  else none

/-- The clause that a domain with wildcards stands for: every `*` matches any characters of a line, all else is
literal. -/
def expandWildcards (domain : Text) : Text :=
  if domain.contains '*' then
    '/' :: ".*?".toList.intercalate ((fields '*' domain).map Regex.Pattern.escape) ++ ['/']
  else domain

def slashedMatcher? (clause : Text) : Option Matcher :=
  ((trimEnds? clause).bind Regex.Pattern.ofText?).map .pattern

def paramMatchers (param : Text) : List Matcher :=
  if isSlashed param then (slashedMatcher? param).toList else (fields '|' param).map .token

def segmentMatcher? (segment : Text) : Option Matcher :=
  let expanded := expandWildcards segment
  if isSlashed expanded then slashedMatcher? expanded else some (.literal segment)

def domainMatchers (domain : Text) : List Matcher :=
  if isSlashed domain then (slashedMatcher? domain).toList else (fields '|' domain).filterMap segmentMatcher?

end LinkTidy.FilterList
