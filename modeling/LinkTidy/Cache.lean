import LinkTidy.Outside
/-!
Copies of downloaded lists: the name that a copy is kept under, and keeping it. A copy that cannot be kept is left
out without complaint.
-/

set_option autoImplicit false

namespace LinkTidy.Cache

def isNameChar (c : Char) : Bool :=
  c.isAlphanum || c = '.' || c = '-' || c = '_'

def lastSegment (url : Text) : Text :=
  ((url.takeWhile fun c => c != '?' && c != '#').reverse.takeWhile (· != '/')).reverse

def twoDigits (n : Nat) : Text :=
  let digits := (toString n).toList
  if digits.length < 2 then '0' :: digits else digits

/-- The name of the copy of the list at an address: the place of the source, and the last segment of the address with
anything unusual replaced. -/
def fileName (index : Nat) (url : Text) : Text :=
  let segment := lastSegment url
  let name := if segment.isEmpty then "filter.txt".toList else segment
  twoDigits index ++ '-' :: name.map fun c => if isNameChar c then c else '_'

variable {σ : Type}

def keep (outside : Outside σ) (directory : Text) (state : σ) (index : Nat) (url : Text) (bytes : Bytes) : σ :=
  let (made, there) := outside.makeDirectory state directory
  if there then outside.write made (pathIn directory (fileName index url)) bytes else made

def keepAll (outside : Outside σ) (directory : Text) : Nat → List (Text × Bytes) → σ → σ
  | _, [], state => state
  | index, (url, bytes) :: rest, state =>
      keepAll outside directory (index + 1) rest (keep outside directory state index url bytes)

end LinkTidy.Cache
