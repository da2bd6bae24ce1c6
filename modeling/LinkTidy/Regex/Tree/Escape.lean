import LinkTidy.Text
import LinkTidy.Regex.Tree
import LinkTidy.Unicode.Blank
import LinkTidy.Unicode.PropertyValue
/-!
Reading what a backslash introduces, and the blanks and comments that a pattern may hold when they are ignored.
Readers take the text from where they start and return what they read with the text behind it; `none` means that the
pattern is not a regular expression.
-/

set_option autoImplicit false

namespace LinkTidy.Regex

open LinkTidy.Unicode

/-- Drops blanks and comments; `inComment` is true inside a comment, which ends with its line. -/
def dropBlanks (inComment : Bool) : Text → Text
  | [] => []
  | c :: rest =>
      if inComment then dropBlanks (c != '\n') rest
      else if isBlank c then dropBlanks false rest
      else if c = '#' then dropBlanks true rest
      else c :: rest

def skip (ignoreSpace : Bool) (text : Text) : Text :=
  if ignoreSpace then dropBlanks false text else text

inductive Escape where
  | literal (l : Literal)
  | place (p : Place)
  | short (negated : Bool) (kind : ShortClass)
  | property (negated : Bool) (set : CharSet)
deriving DecidableEq, Repr

def isMeta (c : Char) : Bool :=
  "\\.+*?()|[]\x7b\x7d^$#&-~".toList.contains c

/-- Characters that stand for themselves after a backslash: every ASCII character but letters, digits and angles. -/
def isEscapable (c : Char) : Bool :=
  isMeta c || (c.toNat < 128 && !c.isAlphanum && c != '<' && c != '>')

def charOfCode? (n : Nat) : Option Char :=
  if n.isValidChar then some (Char.ofNat n) else none

/-- Reads exactly `count` characters, dropping blanks between them. -/
def readCount (ignoreSpace : Bool) : Nat → Text → Option (Text × Text)
  | 0, text => some ([], text)
  | count + 1, text =>
      match text with
      | [] => none
      | c :: rest =>
          let after := if count = 0 then rest else skip ignoreSpace rest
          (readCount ignoreSpace count after).map fun (cs, behind) => (c :: cs, behind)

def readBraced (ignoreSpace inComment : Bool) : Text → Option (Text × Text)
  | [] => none
  | c :: rest =>
      if inComment then readBraced ignoreSpace (c != '\n') rest
      else if ignoreSpace && isBlank c then readBraced ignoreSpace false rest
      else if ignoreSpace && c = '#' then readBraced ignoreSpace true rest
      else if c = '\x7d' then some ([], rest)
      else (readBraced ignoreSpace false rest).map fun (cs, behind) => (c :: cs, behind)

/-- Reads the code of a character: `digits` digits, or any number of them in braces. -/
def readCode (ignoreSpace : Bool) (digits : Nat) (text : Text) : Option (Literal × Text) :=
  let start := skip ignoreSpace text
  match start with
  | '\x7b' :: rest => do
      let (code, behind) ← readBraced ignoreSpace false rest
      if code.isEmpty then none
      let c ← (hexNumber? 0 code).bind charOfCode?
      some ({ char := c }, behind)
  | _ => do
      let (code, behind) ← readCount ignoreSpace digits start
      let c ← (hexNumber? 0 code).bind charOfCode?
      some ({ char := c, byte := digits == 2 }, behind)

def namedProperty? (words : Text) : Option CharSet :=
  match cutAt? "!=".toList words <|> cutAt? ":".toList words <|> cutAt? "=".toList words with
  | some (name, value) => Property.lookupValue name value
  | none => Property.lookup words

def readProperty (ignoreSpace negated : Bool) (text : Text) : Option (Escape × Text) :=
  match skip ignoreSpace text with
  | [] => none
  | '\x7b' :: rest => do
      let (words, behind) ← readBraced ignoreSpace false rest
      let set ← namedProperty? words
      some (.property negated set, behind)
  | c :: rest => do
      if c = '\\' then none
      let set ← Property.lookup [c]
      some (.property negated set, rest)

def namedPlace? (name : Text) : Option Place :=
  if name = "start".toList then some .wordStart
  else if name = "end".toList then some .wordEnd
  else if name = "start-half".toList then some .wordStartHalf
  else if name = "end-half".toList then some .wordEndHalf
  else none

/-- Reads what may follow the sign of a word edge. Braces that begin with a letter or a hyphen must name a place; any
others are left to be read as a repetition. -/
def readWordEdge (ignoreSpace : Bool) (text : Text) : Option (Place × Text) :=
  match text with
  | '\x7b' :: rest =>
      match skip ignoreSpace rest with
      | [] => none
      | c :: _ =>
          if c.isAlpha || c = '-' then do
            let (name, behind) ← readBraced ignoreSpace false rest
            let place ← namedPlace? name
            some (place, behind)
          else some (.wordEdge, text)
  | _ => some (.wordEdge, text)

def readEscape (ignoreSpace : Bool) : Text → Option (Escape × Text)
  | [] => none
  | c :: rest =>
      let plain (char : Char) : Option (Escape × Text) := some (.literal { char := char }, rest)
      let place (p : Place) : Option (Escape × Text) := some (.place p, rest)
      let short (negated : Bool) (kind : ShortClass) : Option (Escape × Text) := some (.short negated kind, rest)
      let code (digits : Nat) : Option (Escape × Text) :=
        (readCode ignoreSpace digits rest).map fun (l, behind) => (.literal l, behind)
      match c with
      | 'x' => code 2
      | 'u' => code 4
      | 'U' => code 8
      | 'p' => readProperty ignoreSpace false rest
      | 'P' => readProperty ignoreSpace true rest
      | 'd' => short false .digit
      | 'D' => short true .digit
      | 's' => short false .space
      | 'S' => short true .space
      | 'w' => short false .word
      | 'W' => short true .word
      | 'a' => plain '\x07'
      | 'f' => plain '\x0C'
      | 't' => plain '\t'
      | 'n' => plain '\n'
      | 'r' => plain '\r'
      | 'v' => plain '\x0B'
      | 'A' => place .textStart
      | 'z' => place .textEnd
      | 'b' => (readWordEdge ignoreSpace rest).map fun (p, behind) => (.place p, behind)
      | 'B' => place .noWordEdge
      | '<' => place .wordStart
      | '>' => place .wordEnd
      | _ => if isEscapable c then plain c else none

end LinkTidy.Regex
