import LinkTidy.Unicode.Blank
import LinkTidy.Unicode.Word
import LinkTidy.Url
/-!
Finding addresses in a text. White space and angle brackets separate a text into runs; a run holds at most one address,
which begins where the first of three forms begins at the start of a word, and ends with the run less the punctuation
of the sentence around it.
-/

set_option autoImplicit false

namespace LinkTidy.Url

def isSeparator (c : Char) : Bool :=
  Unicode.isBlank c || c = '<' || c = '>'

/-- The separator-free runs of a text: the first one, and each other one behind its separator. -/
def runs : Text → Text × List (Char × Text)
  | [] => ([], [])
  | c :: rest =>
      let (run, others) := runs rest
      if isSeparator c then ([], (c, run) :: others) else (c :: run, others)

/-- The letters `a` to `z` in any case; the long s and the kelvin sign are cases of `s` and `k`. -/
def isLetter (c : Char) : Bool :=
  c.isAlpha || c = '\u017F' || c = '\u212A'

def isLetterOrDigit (c : Char) : Bool :=
  isLetter c || c.isDigit

def isSchemeChar (c : Char) : Bool :=
  isLetterOrDigit c || c = '+' || c = '.' || c = '-'

def isHostChar (c : Char) : Bool :=
  isLetterOrDigit c || c = '.' || c = '-'

def startsWithScheme : Text → Bool
  | [] => false
  | c :: rest =>
      isLetter c &&
        match "://".toList.isPrefixOf? (rest.dropWhile isSchemeChar) with
        | some behind => !behind.isEmpty
        | none => false

def startsWithWww : Text → Bool
  | a :: b :: c :: '.' :: _ :: _ => [a, b, c].all fun w => w = 'w' || w = 'W'
  | _ => false

def isLabel (label : Text) : Bool :=
  label.head?.any isLetterOrDigit && label.getLast?.any isLetterOrDigit

def isHostName (name : Text) : Bool :=
  let labels := fields '.' name
  match labels.getLast? with
  | none => false
  | some top => 2 ≤ labels.length && labels.dropLast.all isLabel && 2 ≤ top.length && top.all isLetter

def opensPath : Text → Bool
  | '/' :: _ | '?' :: _ => true
  | ':' :: rest =>
      let digits := rest.takeWhile Char.isDigit
      1 ≤ digits.length && digits.length ≤ 5 &&
        match rest.dropWhile Char.isDigit with
        | '/' :: _ | '?' :: _ => true
        | _ => false
  | _ => false

def startsWithHost (text : Text) : Bool :=
  opensPath (text.dropWhile isHostChar) && isHostName (text.takeWhile isHostChar)

def startsAddress (text : Text) : Bool :=
  startsWithScheme text || startsWithWww text || startsWithHost text

/-- The part of a run before its first address, and the rest of the run. `inWord` says that the run continues a word,
inside which no address begins. -/
def cutAtAddress? (inWord : Bool) : Text → Option (Text × Text)
  | [] => none
  | c :: rest =>
      if !inWord && startsAddress (c :: rest) then some ([], c :: rest)
      else (cutAtAddress? (Unicode.isWord c) rest).map fun (before, found) => (c :: before, found)

def unbalanced (opening closing : Char) (text : Text) : Bool :=
  text.count opening < text.count closing

def endsSentence (last : Char) (text : Text) : Bool :=
  match last with
  | '.' | ',' | ';' | ':' | '!' | '?' | '\'' | '"' => true
  | ')' => unbalanced '(' ')' text
  | ']' => unbalanced '[' ']' text
  | '\x7d' => unbalanced '\x7b' '\x7d' text
  | _ => false

def trimReversed : Text → Text
  | [] => []
  | last :: earlier => if endsSentence last (last :: earlier) then trimReversed earlier else last :: earlier

def trimEnd (text : Text) : Text :=
  (trimReversed text.reverse).reverse

/-- The address that a found text is: its end is trimmed, and nothing is left of a bare scheme. -/
def ofFound? (offset : Nat) (found : Text) : Option Url :=
  let trimmed := trimEnd found
  if trimmed.isEmpty || "://".toList.isSuffixOf trimmed then none else some (Url.ofText offset trimmed)

def inRun? (offset : Nat) (run : Text) : Option Url :=
  (cutAtAddress? false run).bind fun (before, found) => ofFound? (offset + byteLength before) found

def inRuns (offset : Nat) (run : Text) : List (Char × Text) → List Url
  | [] => (inRun? offset run).toList
  | (separator, next) :: others =>
      (inRun? offset run).toList ++ inRuns (offset + byteLength run + separator.utf8Size) next others

def detect (text : Text) : List Url :=
  let (run, others) := runs text
  inRuns 0 run others

end LinkTidy.Url
