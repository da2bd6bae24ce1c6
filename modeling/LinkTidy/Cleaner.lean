import LinkTidy.Store
import LinkTidy.Url.Detect
/-!
Removing tracking parameters from a text: every address found in it is rewritten by all rules, and the rewritten
addresses are put back into the text from right to left, so that the offsets of those to the left stay true.
-/

set_option autoImplicit false

namespace LinkTidy

structure Cleaned where
  text : Text
  changed : Bool
deriving DecidableEq, Repr

namespace Cleaner

abbrev Rewrites := List (Text × Text)

def Rewrites.find? (rewrites : Rewrites) (original : Text) : Option Text :=
  (List.find? (fun entry => entry.1 == original) rewrites).map (·.2)

def rewrite? (rules : List Rule) (url : Url) : Option Text :=
  let (model, hits) := Rule.applyAll rules (UrlModel.ofUrl url)
  if hits = 0 then none else some model.finalize

/-- Rewrites addresses from left to right, each original text once. If asked to, stops at the first address that no
rule changes. -/
def collect (stopAtUntouched : Bool) (rules : List Rule) : List Url → Rewrites → Rewrites
  | [], rewrites => rewrites
  | url :: rest, rewrites =>
      if (rewrites.find? url.original).isSome then collect stopAtUntouched rules rest rewrites
      else
        match rewrite? rules url with
        | some rewritten => collect stopAtUntouched rules rest ((url.original, rewritten) :: rewrites)
        | none => if stopAtUntouched then rewrites else collect stopAtUntouched rules rest rewrites

def spliceOne? (original rewritten : Text) (offset : Nat) (text : Text) : Option Text := do
  let (before, there) ← cutAtByte? offset text
  let behind ← original.isPrefixOf? there
  some (before ++ rewritten ++ behind)

def splice (rewrites : Rewrites) (urls : List Url) (text : Text) : Cleaned :=
  urls.foldr
    (fun url cleaned =>
      match rewrites.find? url.original with
      | none => cleaned
      | some rewritten =>
          match spliceOne? url.original rewritten url.offset cleaned.text with
          | none => cleaned
          | some text => ⟨text, true⟩)
    ⟨text, false⟩

def cleanWith (stopAtUntouched : Bool) (store : Store) (urls : List Url) (text : Text) : Cleaned :=
  splice (collect stopAtUntouched store.snapshot.flatten urls []) urls text

def clean (stopAtUntouched : Bool) (store : Store) (text : Text) : Cleaned :=
  cleanWith stopAtUntouched store (Url.detect text) text

end Cleaner
end LinkTidy
