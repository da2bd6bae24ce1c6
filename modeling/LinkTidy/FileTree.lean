import LinkTidy.Text.Utf8
/-!
A tree of files with a working directory in it, and the rules by which a path names a place in the tree. All that there
is are files and directories; everybody may read and write them.
-/

set_option autoImplicit false

namespace LinkTidy

inductive FileError where
  | missing
  | notDirectory
  | isDirectory
  | nameTooLong
  | badName
  | notText
deriving DecidableEq, Repr

def FileError.message : FileError → Text
  | .missing => "No such file or directory (os error 2)".toList
  | .notDirectory => "Not a directory (os error 20)".toList
  | .isDirectory => "Is a directory (os error 21)".toList
  | .nameTooLong => "File name too long (os error 36)".toList
  | .badName => "file name contained an unexpected NUL byte".toList
  | .notText => "stream did not contain valid UTF-8".toList

abbrev FileReader := Text → Except FileError Bytes

def FileReader.readText (read : FileReader) (path : Text) : Except FileError Text :=
  match read path with
  | .error e => .error e
  | .ok bytes =>
      match Utf8.decode bytes with
      | .ok text => .ok text
      | .error _ => .error .notText

def pathIn (directory name : Text) : Text :=
  if directory.isEmpty ∨ directory.getLast? = some '/' then directory ++ name else directory ++ '/' :: name

/-- The names on the way from the root. -/
abbrev Location := List Text

/-- Where a name leads from a location. Above the root there is nothing else. -/
def Location.step (location : Location) (name : Text) : Location :=
  if name.isEmpty ∨ name = ['.'] then location
  else if name = "..".toList then location.dropLast
  else location ++ [name]

/-- Every directory above a file exists, whether it is listed or not. Paths start at the working directory unless they
start at the root. -/
structure FileTree where
  files : List (Location × Bytes) := []
  directories : List Location := []
  working : Location := []
deriving DecidableEq, Repr

namespace FileTree

inductive Kind where
  | file (bytes : Bytes)
  | directory
  | nothing
deriving DecidableEq, Repr

def kindAt (tree : FileTree) (location : Location) : Kind :=
  match tree.files.find? fun entry => entry.1 == location with
  | some (_, bytes) => .file bytes
  | none =>
      if location.isEmpty || tree.directories.any (location.isPrefixOf ·) ||
          tree.files.any (location.isPrefixOf ·.1) then .directory
      else .nothing

/-- The longest name, in bytes. -/
def maxName : Nat := 255

/-- The longest path, in bytes. -/
def maxPath : Nat := 4095

def enter (tree : FileTree) (location : Location) (name : Text) : Except FileError Location :=
  match tree.kindAt location with
  | .nothing => .error .missing
  | .file _ => .error .notDirectory
  | .directory => if maxName < byteLength name then .error .nameTooLong else .ok (location.step name)

def walk (tree : FileTree) : Location → List Text → Except FileError Location
  | location, [] => .ok location
  | location, name :: rest =>
      match tree.enter location name with
      | .ok next => tree.walk next rest
      | .error e => .error e

def start (tree : FileTree) (path : Text) : Location :=
  if path.head? = some '/' then [] else tree.working

def locate (tree : FileTree) (path : Text) : Except FileError Location :=
  if path.contains '\x00' then .error .badName
  else if path.isEmpty then .error .missing
  else if maxPath < byteLength path then .error .nameTooLong
  else tree.walk (tree.start path) (fields '/' path)

def read (tree : FileTree) (path : Text) : Except FileError Bytes :=
  match tree.locate path with
  | .error e => .error e
  | .ok location =>
      match tree.kindAt location with
      | .file bytes => .ok bytes
      | .directory => .error .isDirectory
      | .nothing => .error .missing

def putFile (location : Location) (bytes : Bytes) : List (Location × Bytes) → List (Location × Bytes)
  | [] => [(location, bytes)]
  | entry :: rest => if entry.1 = location then (location, bytes) :: rest else entry :: putFile location bytes rest

def withFile (tree : FileTree) (location : Location) (bytes : Bytes) : FileTree :=
  { tree with files := putFile location bytes tree.files }

def withDirectory (tree : FileTree) (location : Location) : FileTree :=
  { tree with directories := tree.directories ++ [location] }

/-- Writes the file at a path. Nothing happens where the path leads nowhere, or to a directory. -/
def write (tree : FileTree) (path : Text) (bytes : Bytes) : FileTree :=
  match tree.locate path with
  | .error _ => tree
  | .ok location => if tree.kindAt location = .directory then tree else tree.withFile location bytes

/-- Whether nothing but dots is left of a way. A directory that does not exist cannot be named so. -/
def endsInDot (rest : List Text) : Bool :=
  rest.contains ['.'] && rest.all fun name => name.isEmpty || name = ['.']

/-- Creates the directories on a way that are missing, and says whether the whole way is there then. What was created
stays if it is not: if a file stands in the way, or if the last directory is missing and named with a dot behind it. -/
def makeWay (tree : FileTree) : Location → List Text → FileTree × Bool
  | _, [] => (tree, true)
  | location, name :: rest =>
      match tree.enter location name with
      | .error _ => (tree, false)
      | .ok next =>
          match tree.kindAt next with
          | .file _ => (tree, false)
          | .directory => tree.makeWay next rest
          | .nothing => if endsInDot rest then (tree, false) else (tree.withDirectory next).makeWay next rest

def makeDirectory (tree : FileTree) (path : Text) : FileTree × Bool :=
  if path.contains '\x00' ∨ maxPath < byteLength path then (tree, false)
  else tree.makeWay (tree.start path) (fields '/' path)

/-- The entries of the directory at a path: files with their bytes, directories as empty ones. -/
def entries? (tree : FileTree) (path : Text) : Option (List (Text × Bytes)) :=
  match tree.locate path with
  | .error _ => none
  | .ok location =>
      if tree.kindAt location = .directory then
        let below := (tree.files.map (·.1) ++ tree.directories).filterMap fun other =>
          (location.isPrefixOf? other).bind (·.head?)
        some (below.eraseDups.map fun name =>
          match tree.kindAt (location ++ [name]) with
          | .file bytes => (name, bytes)
          | _ => (name, []))
      else none

end FileTree
end LinkTidy
