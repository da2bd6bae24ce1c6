import LinkTidy.Regex.Tree.Escape
/-!
Reading a class in brackets. Open brackets and operators whose right side is still being read wait on a stack; every
step takes at least one character, so the length of the text bounds the number of steps.
-/

set_option autoImplicit false

namespace LinkTidy.Regex

open LinkTidy.Unicode

def asciiClasses : List (String × CharSet) :=
  let digit := CharSet.range '0' '9'
  let lower := CharSet.range 'a' 'z'
  let upper := CharSet.range 'A' 'Z'
  [
    ("alnum", .unions [digit, upper, lower]), ("alpha", .union upper lower), ("ascii", .range '\x00' '\x7F'),
    ("blank", .union (.single '\t') (.single ' ')), ("cntrl", .union (.range '\x00' '\x1F') (.single '\x7F')),
    ("digit", digit), ("graph", .range '!' '~'), ("lower", lower), ("print", .range ' ' '~'),
    ("punct", .unions [.range '!' '/', .range ':' '@', .range '[' '\x60', .range '\x7b' '~']),
    ("space", .union (.range '\t' '\r') (.single ' ')), ("upper", upper),
    ("word", .unions [digit, upper, .single '_', lower]),
    ("xdigit", .unions [digit, .range 'A' 'F', .range 'a' 'f'])]

def readAsciiClass? (text : Text) : Option (Bracket × Text) := do
  let inside ← [':'].isPrefixOf? text
  let (negated, start) := match inside with
    | '^' :: rest => (true, rest)
    | _ => (false, inside)
  let name := start.takeWhile (· != ':')
  let behind ← ":]".toList.isPrefixOf? (start.dropWhile (· != ':'))
  let entry ← asciiClasses.find? fun entry => entry.1.toList == name
  some (.ascii negated entry.2, behind)

inductive Pending where
  | bracket (negated : Bool) (earlier : List Bracket)
  | operator (kind : SetOperator) (left : Bracket)
deriving DecidableEq, Repr

def closeOperator (item : Bracket) : List Pending → Bracket × List Pending
  | .operator kind left :: rest => (.operation kind left item, rest)
  | stack => (item, stack)

def readMember (ignoreSpace : Bool) : Text → Option (Bracket × Text)
  | [] => none
  | c :: rest =>
      if c = '\\' then
        match readEscape ignoreSpace rest with
        | some (.literal l, behind) => some (.literal l, behind)
        | some (.short negated kind, behind) => some (.short negated kind, behind)
        | some (.property negated set, behind) => some (.property negated set, behind)
        | _ => none
      else some (.literal { char := c }, rest)

/-- The character that follows, past blanks where they are ignored. A comment sign is passed over, but not the comment
behind it. -/
def peek (ignoreSpace : Bool) (text : Text) : Option Char :=
  if ignoreSpace then
    let ahead := match text.dropWhile isBlank with
      | '#' :: rest => rest.dropWhile isBlank
      | other => other
    match ahead with
    | c :: _ => some c
    | [] => text.head?
  else text.head?

/-- A member, or the range from it to a second one. A hyphen before a bracket or another hyphen makes no range. -/
def readRange (ignoreSpace : Bool) (text : Text) : Option (Bracket × Text) := do
  let (first, behind) ← readMember ignoreSpace text
  match skip ignoreSpace behind with
  | [] => none
  | '-' :: rest =>
      let next := peek ignoreSpace rest
      if next = some ']' ∨ next = some '-' then some (first, '-' :: rest)
      else
        let (second, after) ← readMember ignoreSpace (skip ignoreSpace rest)
        match first, second with
        | .literal low, .literal high =>
            if low.char ≤ high.char then some (.range low high, after) else none
        | _, _ => none
  | other => some (first, other)

def readComplement (ignoreSpace : Bool) (text : Text) : Bool × Text :=
  match skip ignoreSpace text with
  | '^' :: rest => (true, rest)
  | other => (false, other)

def setOperator? : Char → Option SetOperator
  | '&' => some .intersection
  | '-' => some .difference
  | '~' => some .symmetricDifference
  | _ => none

/-- Reads on to the bracket that closes the outermost open one. `items` holds the items of the innermost open bracket,
the last one first. At its start, where `fresh` is true, hyphens and then a closing bracket stand for themselves. -/
def readItems (ignoreSpace : Bool) :
    Nat → List Pending → List Bracket → Bool → Text → Option (Bool × Bracket × Text)
  | 0, _, _, _, _ => none
  | fuel + 1, stack, items, fresh, text =>
      match skip ignoreSpace text with
      | [] => none
      | c :: rest =>
          if fresh && c = '-' then
            readItems ignoreSpace fuel stack (.literal { char := c } :: items) true rest
          else if fresh && c = ']' && items.isEmpty then
            readItems ignoreSpace fuel stack [.literal { char := c }] false rest
          else if c = '[' then
            match readAsciiClass? rest with
            | some (item, behind) => readItems ignoreSpace fuel stack (item :: items) false behind
            | none =>
                let (negated, start) := readComplement ignoreSpace rest
                readItems ignoreSpace fuel (.bracket negated items :: stack) [] true start
          else if c = ']' then
            match closeOperator (Bracket.ofItems items) stack with
            | (inside, [.bracket negated _]) => some (negated, inside, rest)
            | (inside, .bracket negated earlier :: outer) =>
                readItems ignoreSpace fuel outer (.nested negated inside :: earlier) false rest
            | _ => none
          else
            match setOperator? c, rest with
            | some kind, d :: behind =>
                if c = d then
                  let (left, outer) := closeOperator (Bracket.ofItems items) stack
                  readItems ignoreSpace fuel (.operator kind left :: outer) [] false behind
                else (readRange ignoreSpace (c :: rest)).bind fun (item, behind) =>
                  readItems ignoreSpace fuel stack (item :: items) false behind
            | _, _ => (readRange ignoreSpace (c :: rest)).bind fun (item, behind) =>
                readItems ignoreSpace fuel stack (item :: items) false behind

def readBracket (ignoreSpace : Bool) (text : Text) : Option (Bool × Bracket × Text) :=
  let (negated, start) := readComplement ignoreSpace text
  readItems ignoreSpace (start.length + 1) [.bracket negated []] [] true start

end LinkTidy.Regex
