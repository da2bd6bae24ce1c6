import LinkTidy.Cleaner
import LinkTidy.Command.Arguments
import LinkTidy.Config
import LinkTidy.FilterList
import LinkTidy.Rule.Dedupe
import LinkTidy.Source
/-!
Running a request: compiling lists and reporting on them, or cleaning texts with the rules of all sources. A run starts
in some state of the world outside and with its input as bytes, and leaves a state of the world, what it prints and how
it ends.
-/

set_option autoImplicit false

namespace LinkTidy.Command

inductive RunError where
  | unreadable (path reason : Text)
  | config (e : ConfigError)
  | source (e : SourceError)
  | input (fault : Utf8.Fault)
deriving DecidableEq, Repr

def RunError.message : RunError → Text
  | .unreadable path reason => "Failed to read '".toList ++ path ++ "': ".toList ++ reason
  | .config e => e.message ++ (e.cause.map (": ".toList ++ ·)).getD []
  | .source e => e.message
  | .input fault => fault.message

structure Outcome where
  stdout : Text
  error : Option RunError := none
deriving DecidableEq, Repr

def Outcome.stderr (outcome : Outcome) : Text :=
  match outcome.error with
  | none => []
  | some e => "Error: ".toList ++ e.message

def Outcome.exitCode (outcome : Outcome) : Nat :=
  if outcome.error.isSome then 1 else 0

def usageExitCode : Nat := 2

def natText (n : Nat) : Text :=
  (toString n).toList

def baseName (path : Text) : Text :=
  ((fields '/' path).filter fun name => !name.isEmpty && name != ['.']).getLast?.getD []

structure Compilation where
  lists : Nat := 0
  lineCount : Nat := 0
  rules : List Rule := []
  stdout : Text := []
deriving DecidableEq

def listReport (index : Nat) (path : Text) (lineCount ruleCount : Nat) : Text :=
  "  [".toList ++ natText index ++ "] ".toList ++ baseName path ++ " - ".toList ++ natText lineCount ++
    " lines, ".toList ++ natText ruleCount ++ " rules\n".toList

def Compilation.add (c : Compilation) (verbose : Bool) (path text : Text) : Compilation :=
  let rules := FilterList.compile text
  let lineCount := (lines text).length
  {
    lists := c.lists + 1
    lineCount := c.lineCount + lineCount
    rules := c.rules ++ rules
    stdout := c.stdout ++ if verbose then listReport c.lists path lineCount rules.length else [] }

def compileLists (read : FileReader) (verbose : Bool) : List Text → Compilation → Compilation × Option RunError
  | [], c => (c, none)
  | path :: rest, c =>
      match read.readText path with
      | .error e => (c, some (.unreadable path e.message))
      | .ok text => compileLists read verbose rest (c.add verbose path text)

def Compilation.report (c : Compilation) : Text :=
  let stats := Rule.dedupeStats c.rules
  "Compiled ".toList ++ natText c.lists ++ " filter lists\n".toList ++
    "  Lines:    ".toList ++ natText c.lineCount ++ "\n".toList ++
    "  Rules:    ".toList ++ natText stats.before ++ " -> ".toList ++ natText stats.after ++
    " (dedupe removed ".toList ++ natText stats.removed ++ ")\n".toList

def compile (read : FileReader) (inputs : List Text) (verbose dump : Bool) : Outcome :=
  match compileLists read verbose inputs {} with
  | (c, some e) => ⟨c.stdout, some e⟩
  | (c, none) =>
      let rules := if dump then unlines ((Rule.dedupe c.rules).map Rule.display) else []
      ⟨c.stdout ++ rules ++ c.report, none⟩

def SourceOptions.resolve (options : SourceOptions) (read : FileReader) : Except ConfigError Config :=
  let file := options.config.map fun path =>
    (path, match read.readText path with
      | .ok text => Except.ok text
      | .error e => .error e.message)
  Config.resolveWith file options.filters

section

variable {σ : Type} (outside : Outside σ)

/-- Fetches the sources of a configuration and updates a store with them. A store whose update fails keeps what it
holds by then. -/
def updateFilters (config : Config) (state : σ) (store : Store) : σ × Store × Option SourceError :=
  let (next, sources) := Source.fetchAll outside config.cacheDir 0 config.filters state
  let (progress, failed) := store.updateAll FilterList.compileLine (fun _ => false) sources
  (next, progress.store, failed)

def prepare (state : σ) (options : SourceOptions) : σ × Except RunError (Config × Store) :=
  match options.resolve (outside.read state) with
  | .error e => (state, .error (.config e))
  | .ok config =>
      match updateFilters outside config state Store.empty with
      | (next, _, some e) => (next, .error (.source e))
      | (next, store, none) => (next, .ok (config, store))

end

/-- The lines of an input, each with the line feed that ends it. -/
def splitInput : Bytes → List Bytes
  | [] => []
  | b :: rest =>
      if b = 10 then [b] :: splitInput rest
      else match splitInput rest with
        | [] => [[b]]
        | line :: others => (b :: line) :: others

def withoutLineEnd (line : Text) : Text :=
  if line.getLast? = some '\n' then dropLastChar '\r' line.dropLast else line

def cleanLines (cleaned : Text → Text) : List Bytes → Outcome
  | [] => ⟨[], none⟩
  | line :: rest =>
      match Utf8.decode line with
      | .error fault => ⟨[], some (.input fault)⟩
      | .ok text =>
          let behind := cleanLines cleaned rest
          { behind with stdout := cleaned (withoutLineEnd text) ++ '\n' :: behind.stdout }

section

variable {σ : Type} (outside : Outside σ)

def clean (state : σ) (input : Bytes) (options : SourceOptions) (texts : List Text) : σ × Outcome :=
  match prepare outside state options with
  | (next, .error e) => (next, ⟨[], some e⟩)
  | (next, .ok (_, store)) =>
      let cleaned (text : Text) : Text := (Cleaner.clean options.parity store text).text
      (next, if texts.isEmpty then cleanLines cleaned (splitInput input) else ⟨unlines (texts.map cleaned), none⟩)

inductive Event (σ : Type) where
  | line (bytes : Bytes)
  /-- The filters are due to be renewed, and the world has changed meanwhile. -/
  | renewal (change : σ → σ)
  | interrupt

/-- Cleans lines as they come, with the rules held by then. A renewal that fails changes no rules and does not end the
run. -/
def watchEvents (config : Config) (parity : Bool) : σ → Store → List (Event σ) → σ × Outcome
  | state, _, [] => (state, ⟨[], none⟩)
  | state, _, .interrupt :: _ => (state, ⟨[], none⟩)
  | state, store, .renewal change :: rest =>
      let (next, renewed, _) := updateFilters outside config (change state) store
      watchEvents config parity next renewed rest
  | state, store, .line bytes :: rest =>
      match Utf8.decode bytes with
      | .error fault => (state, ⟨[], some (.input fault)⟩)
      | .ok text =>
          let cleaned := Cleaner.clean parity store (withoutLineEnd text)
          let (last, behind) := watchEvents config parity state store rest
          (last, { behind with stdout := cleaned.text ++ '\n' :: behind.stdout })

def watch (state : σ) (options : SourceOptions) (events : List (Event σ)) : σ × Outcome :=
  match prepare outside state options with
  | (next, .error e) => (next, ⟨[], some e⟩)
  | (next, .ok (config, store)) => watchEvents outside config options.parity next store events

/-- Runs a request, with an input that is there from the start and ends before the filters are due again. -/
def run (state : σ) (input : Bytes) : Request → σ × Outcome
  | .compile inputs verbose dump => (state, compile (outside.read state) inputs verbose dump)
  | .clean options texts => clean outside state input options texts
  | .watch options => watch outside state options ((splitInput input).map .line)
  | .help => (state, ⟨[], none⟩)

end

end LinkTidy.Command
