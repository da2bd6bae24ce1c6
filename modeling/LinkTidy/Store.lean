import LinkTidy.Digest
import LinkTidy.Rule
/-!
The rules compiled from each filter source, with the digest of the bytes they were compiled from. A source whose digest
has not changed is not compiled again.
-/

set_option autoImplicit false

namespace LinkTidy

/-- What turns one line of a source into rules; `none` if the line is no rule. -/
abbrev LineCompiler := Text → Option (List Rule)

inductive SourceError where
  | unavailable (id reason : Text)
  | undecodable (id : Text) (validUpTo : Nat)
deriving DecidableEq, Repr

def SourceError.message : SourceError → Text
  | .unavailable id reason => "Source '".toList ++ id ++ "' unavailable: ".toList ++ reason
  | .undecodable id validUpTo =>
      "Source '".toList ++ id ++ s!"' is not valid UTF-8 (at byte {validUpTo})".toList

structure RawSource where
  id : Text
  bytes : Bytes
deriving DecidableEq, Repr

/-- What the store holds for one source. The stamp is a new one whenever the source is compiled, so equal stamps mean
the very same rules. -/
structure Entry where
  id : Text
  hash : Text
  rules : List Rule
  stamp : Nat
deriving DecidableEq

/-- The sources in the order in which they were first seen. -/
structure Store where
  entries : List Entry := []
  nextStamp : Nat := 0
deriving DecidableEq

namespace Store

def empty : Store := {}

def find? (store : Store) (id : Text) : Option Entry :=
  store.entries.find? fun entry => entry.id == id

def rulesFor (store : Store) (id : Text) : Option (List Rule) :=
  (store.find? id).map (·.rules)

def hashFor (store : Store) (id : Text) : Option Text :=
  (store.find? id).map (·.hash)

def snapshot (store : Store) : List (List Rule) :=
  store.entries.map (·.rules)

def sourceCount (store : Store) : Nat :=
  store.entries.length

def totalRules (store : Store) : Nat :=
  store.entries.foldr (fun entry total => entry.rules.length + total) 0

def putEntry (entry : Entry) : List Entry → List Entry
  | [] => [entry]
  | other :: rest => if other.id = entry.id then entry :: rest else other :: putEntry entry rest

def put (store : Store) (id hash : Text) (rules : List Rule) : Store where
  entries := putEntry ⟨id, hash, rules, store.nextStamp⟩ store.entries
  nextStamp := store.nextStamp + 1

def compileLines (compiler : LineCompiler) (texts : List Text) : List Rule :=
  texts.flatMap fun line => (compiler line).getD []

structure Updated where
  store : Store
  count : Nat
  calls : Nat
deriving DecidableEq

/-- Compiles lines for a source unless the hash is the one already held. -/
def update (store : Store) (compiler : LineCompiler) (id hash : Text) (texts : List Text) : Updated :=
  let compiled : Updated :=
    let rules := compileLines compiler texts
    ⟨store.put id hash rules, rules.length, texts.length⟩
  match store.find? id with
  | some entry => if entry.hash = hash then ⟨store, entry.rules.length, 0⟩ else compiled
  | none => compiled

def decodeSource (id : Text) (bytes : Bytes) : Except SourceError Text :=
  match Utf8.decode bytes with
  | .ok text => .ok text
  | .error fault => .error (.undecodable id fault.validUpTo)

def updateBytes (store : Store) (compiler : LineCompiler) (id : Text) (bytes : Bytes) :
    Except SourceError Updated :=
  match decodeSource id bytes with
  | .ok text => .ok (store.update compiler id (Digest.contentHash bytes) (lines text))
  | .error e => .error e

structure Summary where
  sources : Nat := 0
  recompiled : Nat := 0
  skipped : Nat := 0
  totalRules : Nat := 0
  cancelled : Bool := false
deriving DecidableEq, Repr

structure Progress where
  store : Store
  summary : Summary := {}
  calls : Nat := 0
deriving DecidableEq

def Summary.add (summary : Summary) (same : Bool) : Summary :=
  { summary with
    sources := summary.sources + 1
    recompiled := if same then summary.recompiled else summary.recompiled + 1
    skipped := if same then summary.skipped + 1 else summary.skipped }

/-- Updates sources in order. `cancelled n` says whether the batch has been cancelled by the time the compiler has been
given `n` lines; it is asked before every source. -/
def updateEach (compiler : LineCompiler) (cancelled : Nat → Bool) :
    List RawSource → Progress → Progress × Option SourceError
  | [], progress => (progress, none)
  | source :: rest, progress =>
      if cancelled progress.calls then
        ({ progress with summary := { progress.summary with cancelled := true } }, none)
      else
        match progress.store.updateBytes compiler source.id source.bytes with
        | .error e => (progress, some e)
        | .ok updated =>
            let same := progress.store.hashFor source.id == updated.store.hashFor source.id
            updateEach compiler cancelled rest
              ⟨updated.store, progress.summary.add same, progress.calls + updated.calls⟩

def available : List (Except SourceError RawSource) → Except SourceError (List RawSource)
  | [] => .ok []
  | .error e :: _ => .error e
  | .ok source :: rest =>
      match available rest with
      | .ok sources => .ok (source :: sources)
      | .error e => .error e

def firstUndecodable : List RawSource → Option SourceError
  | [] => none
  | source :: rest =>
      match decodeSource source.id source.bytes with
      | .ok _ => firstUndecodable rest
      | .error e => some e

/-- Updates a batch of sources. All of them must be available and readable before any is compiled. -/
def updateAll (store : Store) (compiler : LineCompiler) (cancelled : Nat → Bool)
    (sources : List (Except SourceError RawSource)) : Progress × Option SourceError :=
  match available sources with
  | .error e => (⟨store, {}, 0⟩, some e)
  | .ok raw =>
      match firstUndecodable raw with
      | some e => (⟨store, {}, 0⟩, some e)
      | none =>
          let (progress, failed) := updateEach compiler cancelled raw ⟨store, {}, 0⟩
          let summary := { progress.summary with totalRules := progress.store.totalRules }
          ({ progress with summary := summary }, failed)

def dump (store : Store) : Text :=
  store.entries.flatMap fun entry =>
    "Source: ".toList ++ entry.id ++ " (".toList ++ entry.hash ++ ")\n".toList ++
      (entry.rules.flatMap fun rule => '\t' :: rule.display ++ ['\n']) ++ ['\n']

end Store
end LinkTidy
