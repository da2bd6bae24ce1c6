import LinkTidy.Command
/-!
The program: it reads the files that a request names, runs the request on them, and prints what the run leaves. Nothing
is downloaded.
-/

set_option autoImplicit false

namespace LinkTidy.Main

open Command

def textOf (s : String) : Text := s.toList

def stringOf (text : Text) : String := String.ofList text

def fileError : IO.Error → FileError
  | .inappropriateType .. => .isDirectory
  | .noFileOrDirectory .. => .missing
  | .noSuchThing .. => .missing
  | _ => .notDirectory

def load (path : Text) : IO (Except FileError Bytes) := do
  try
    let bytes ← IO.FS.readBinFile (stringOf path)
    return .ok bytes.toList
  catch e => return .error (fileError e)

def loadAll (paths : List Text) : IO FileReader := do
  let files ← paths.mapM fun path => do return (path, ← load path)
  return fun path => ((files.find? (·.1 == path)).map (·.2)).getD (.error .missing)

/-- The files that a request reads: those that it names, and those that its configuration names. -/
def readerFor (request : Request) : IO FileReader := do
  match request with
  | .compile inputs _ _ => loadAll inputs
  | .clean options _ | .watch options => do
      let config ← loadAll options.config.toList
      match options.resolve config with
      | .ok resolved => loadAll (options.config.toList ++ resolved.filters.filter (!Source.isRemote ·))
      | .error _ => return config
  | .help => return fun _ => .error .missing

def readsInput : Request → Bool
  | .clean _ texts => texts.isEmpty
  | .watch _ => true
  | _ => false

end LinkTidy.Main

open LinkTidy LinkTidy.Command LinkTidy.Main

def main (arguments : List String) : IO UInt32 := do
  match Request.ofArguments? (arguments.map textOf) with
  | none =>
      IO.eprintln "usage: compile -i LIST... | clean [-c CONFIG] [-f LIST]... [TEXT...] | watch [-c CONFIG] [-f LIST]..."
      return UInt32.ofNat usageExitCode
  | some request =>
      let started ← IO.monoMsNow
      let reader ← readerFor request
      let input ← if readsInput request then (← IO.getStdin).readBinToEnd else pure ByteArray.empty
      let (_, outcome) := run .offline reader input.toList request
      IO.print (stringOf outcome.stdout)
      match request, outcome.error with
      | .compile .., none => IO.println s!"  Time:     {(← IO.monoMsNow) - started}.0ms"
      | _, none => pure ()
      | _, some _ => IO.eprintln (stringOf outcome.stderr)
      return UInt32.ofNat outcome.exitCode
