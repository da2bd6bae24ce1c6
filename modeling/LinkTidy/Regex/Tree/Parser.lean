import LinkTidy.Regex.Tree.Bracket
/-!
Reading a pattern as a tree. Open groups wait on a stack; every step takes at least one character, so the length of
the pattern bounds the number of steps.
-/

set_option autoImplicit false

namespace LinkTidy.Regex

open LinkTidy.Unicode

/-- A group whose closing parenthesis has not been read: what stands before it in its own group, and whether blanks
are ignored there. -/
structure OpenGroup where
  change : FlagChange
  branches : List Tree
  parts : List Tree
  ignoreSpace : Bool
deriving DecidableEq, Repr

/-- What has been read of a pattern. Parts and branches stand in reverse order. -/
structure ParserState where
  stack : List OpenGroup := []
  branches : List Tree := []
  parts : List Tree := []
  ignoreSpace : Bool := false
  names : List Text := []
deriving DecidableEq, Repr

def ParserState.push (r : ParserState) (part : Tree) : ParserState :=
  { r with parts := part :: r.parts }

def ParserState.current (r : ParserState) : Tree :=
  Tree.ofBranches (Tree.ofParts r.parts :: r.branches)

def ParserState.nextBranch (r : ParserState) : ParserState :=
  { r with branches := Tree.ofParts r.parts :: r.branches, parts := [] }

def ParserState.openGroup (r : ParserState) (change : FlagChange) : ParserState :=
  { r with
    stack := ⟨change, r.branches, r.parts, r.ignoreSpace⟩ :: r.stack
    branches := []
    parts := []
    ignoreSpace := change.ignoreSpace.getD r.ignoreSpace }

def ParserState.closeGroup? (r : ParserState) : Option ParserState :=
  match r.stack with
  | [] => none
  | outer :: stack =>
      some { r with
        stack := stack
        branches := outer.branches
        parts := .group outer.change r.current :: outer.parts
        ignoreSpace := outer.ignoreSpace }

/-- Repeats the last part. There must be one, and it must not be a change of flags. -/
def ParserState.repeatLast? (r : ParserState) (least : Nat) (most : Option Nat) : Option ParserState :=
  match r.parts with
  | [] | .setFlags _ :: _ => none
  | part :: earlier => some { r with parts := .repetition least most part :: earlier }

/-- Sets one flag; `none` if the letter is no flag. Whether matches are preferred long or short is read and has no
effect. -/
def FlagChange.set? (change : FlagChange) (flag : Char) (value : Bool) : Option FlagChange :=
  match flag with
  | 'i' => some { change with ignoreCase := some value }
  | 'm' => some { change with multiLine := some value }
  | 's' => some { change with dotAll := some value }
  | 'u' => some { change with unicode := some value }
  | 'R' => some { change with crlf := some value }
  | 'x' => some { change with ignoreSpace := some value }
  | 'U' => some change
  | _ => none

/-- Reads flags up to the colon or parenthesis that ends them. Each flag may stand once, and so may the hyphen, which
must not be the last. -/
def readFlags (change : FlagChange) (seen : List Char) : Text → Option (FlagChange × List Char × Char × Text)
  | [] => none
  | c :: rest =>
      if c = ':' ∨ c = ')' then
        if seen.head? = some '-' then none else some (change, seen, c, rest)
      else if seen.contains c then none
      else if c = '-' then readFlags change (c :: seen) rest
      else (change.set? c (!seen.contains '-')).bind fun next => readFlags next (c :: seen) rest

def isNameChar (first : Bool) (c : Char) : Bool :=
  c = '_' || Property.alphabetic.mem c || (!first && (c = '.' || c = '[' || c = ']' || Property.numbers.mem c))

def readName (first : Bool) : Text → Option (Text × Text)
  | [] => none
  | c :: rest =>
      if c = '>' then some ([], rest)
      else if isNameChar first c then (readName false rest).map fun (name, behind) => (c :: name, behind)
      else none

def readGroup (r : ParserState) (text : Text) : Option (ParserState × Text) :=
  let start := skip r.ignoreSpace text
  let looksAround := ["?=", "?!", "?<=", "?<!"].any fun sign => sign.toList.isPrefixOf start
  if looksAround then none
  else match "?P<".toList.isPrefixOf? start <|> "?<".toList.isPrefixOf? start with
    | some named => do
        let (name, behind) ← readName true named
        if name.isEmpty || r.names.contains name then none
        some ({ r with names := name :: r.names }.openGroup {}, behind)
    | none =>
        match start with
        | '?' :: rest => do
            let (change, seen, last, behind) ← readFlags {} [] rest
            if last = ':' then some (r.openGroup change, behind)
            else if seen.isEmpty then none
            else
              let next := { r with ignoreSpace := change.ignoreSpace.getD r.ignoreSpace }
              some (next.push (.setFlags change), behind)
        | _ => some (r.openGroup {}, start)

def maxCount : Nat := 4294967295

def readDigits (ignoreSpace inComment : Bool) : Text → Text × Text
  | [] => ([], [])
  | c :: rest =>
      if inComment then readDigits ignoreSpace (c != '\n') rest
      else if '0' ≤ c ∧ c ≤ '9' then
        let (digits, behind) := readDigits ignoreSpace false rest
        (c :: digits, behind)
      else if ignoreSpace && isBlank c then readDigits ignoreSpace false rest
      else if ignoreSpace && c = '#' then readDigits ignoreSpace true rest
      else ([], c :: rest)

def writtenCount (digits : Text) : Nat :=
  digits.foldl (fun value digit => value * 10 + (digit.toNat - '0'.toNat)) 0

/-- Reads a number between blanks: no number, or one with its text behind it. A number that is too large is none at
all. -/
def readNumber (ignoreSpace : Bool) (text : Text) : Option (Option Nat × Text) :=
  let (digits, behind) := readDigits ignoreSpace false (text.dropWhile isBlank)
  let rest := dropTrailing behind
  if digits.isEmpty then some (none, rest)
  else if writtenCount digits ≤ maxCount then some (some (writtenCount digits), rest)
  else none
where
  /-- Blanks behind a number never count; comments do not where they are ignored. -/
  dropTrailing (behind : Text) : Text :=
    match behind with
    | c :: _ => if isBlank c then skip ignoreSpace (behind.dropWhile isBlank) else behind
    | [] => []

def dropLazy : Text → Text
  | '?' :: rest => rest
  | other => other

def readCounts (ignoreSpace : Bool) (text : Text) : Option (Nat × Option Nat × Text) := do
  let (first, behind) ← readNumber ignoreSpace (skip ignoreSpace text)
  let least ← first
  let (most, rest) ←
    match behind with
    | ',' :: more =>
        match skip ignoreSpace more with
        | '\x7d' :: _ => some (none, skip ignoreSpace more)
        | start => do
            let (second, after) ← readNumber ignoreSpace start
            let bound ← second
            some (some bound, after)
    | _ => some (some least, behind)
  let after ← ['\x7d'].isPrefixOf? rest
  if most.any (· < least) then none
  some (least, most, dropLazy (skip ignoreSpace after))

def readPart (r : ParserState) (c : Char) (rest : Text) : Option (ParserState × Text) :=
  match c with
  | '(' => readGroup r rest
  | ')' => r.closeGroup?.map fun next => (next, rest)
  | '|' => some (r.nextBranch, rest)
  | '[' => (readBracket r.ignoreSpace rest).map fun (negated, inside, behind) =>
      (r.push (.bracket negated inside), behind)
  | '?' => (r.repeatLast? 0 (some 1)).map fun next => (next, dropLazy rest)
  | '*' => (r.repeatLast? 0 none).map fun next => (next, dropLazy rest)
  | '+' => (r.repeatLast? 1 none).map fun next => (next, dropLazy rest)
  | '\x7b' => do
      let (least, most, behind) ← readCounts r.ignoreSpace rest
      let next ← r.repeatLast? least most
      some (next, behind)
  | '\\' => (readEscape r.ignoreSpace rest).map fun (escape, behind) =>
      (r.push (match escape with
        | .literal l => .literal l
        | .place p => .place p
        | .short negated kind => .short negated kind
        | .property negated set => .property negated set), behind)
  | '.' => some (r.push .dot, rest)
  | '^' => some (r.push (.place .lineStart), rest)
  | '$' => some (r.push (.place .lineEnd), rest)
  | _ => some (r.push (.literal { char := c }), rest)

def readAll : Nat → ParserState → Text → Option ParserState
  | 0, _, _ => none
  | fuel + 1, r, text =>
      match skip r.ignoreSpace text with
      | [] => some r
      | c :: rest => (readPart r c rest).bind fun (next, behind) => readAll fuel next behind

def Tree.ofPattern? (pattern : Text) : Option Tree := do
  let r ← readAll (pattern.length + 1) {} pattern
  if r.stack.isEmpty && r.current.depth .none ≤ maxDepth then some r.current else none

end LinkTidy.Regex
