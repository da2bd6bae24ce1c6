import LinkTidy.Cache
import LinkTidy.Store
/-!
Filter sources: addresses on the web, and local files. The bytes of a local source are those of its file; a list from
the web is downloaded, and a copy of it is kept.
-/

set_option autoImplicit false

namespace LinkTidy.Source

def isRemote (source : Text) : Bool :=
  "http://".toList.isPrefixOf source || "https://".toList.isPrefixOf source

def load (read : FileReader) (source : Text) : Except SourceError RawSource :=
  match read source with
  | .ok bytes => .ok ⟨source, bytes⟩
  | .error e => .error (.unavailable source e.message)

variable {σ : Type} (outside : Outside σ) (directory : Text)

/-- The bytes of the source at a place among all sources. Whether its copy can be kept makes no difference to it. -/
def fetch (state : σ) (index : Nat) (source : Text) : σ × Except SourceError RawSource :=
  if isRemote source then
    match outside.download state source with
    | .ok bytes => (Cache.keep outside directory state index source bytes, .ok ⟨source, bytes⟩)
    | .error reason => (state, .error (.unavailable source reason))
  else (state, load (outside.read state) source)

def fetchAll : Nat → List Text → σ → σ × List (Except SourceError RawSource)
  | _, [], state => (state, [])
  | index, source :: rest, state =>
      let (next, fetched) := fetch outside directory state index source
      let (last, others) := fetchAll (index + 1) rest next
      (last, fetched :: others)

end LinkTidy.Source
