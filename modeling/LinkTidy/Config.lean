import LinkTidy.Json.Reader
/-!
The configuration: where filter lists come from, where copies of them are kept, and how often they are renewed. It is
read from a JSON file, as an object or as the list of its fields in order.
-/

set_option autoImplicit false

namespace LinkTidy

structure Config where
  filters : List Text
  cacheDir : Text
  updatePeriodHours : UInt64
deriving DecidableEq, Repr

inductive ConfigError where
  | unreadable (path reason : Text)
  | invalid (path reason : Text)
  | noSources
  | noPeriod
deriving DecidableEq, Repr

def ConfigError.message : ConfigError → Text
  | .unreadable path _ => "Failed to read config '".toList ++ path ++ ['\'']
  | .invalid path _ => "Invalid config '".toList ++ path ++ ['\'']
  | .noSources => "No filter sources configured".toList
  | .noPeriod => "update_period_hours must be at least 1".toList

def ConfigError.cause : ConfigError → Option Text
  | .unreadable _ reason | .invalid _ reason => some reason
  | .noSources | .noPeriod => none

namespace Config

open Json

def defaultFilters : List Text :=
  [
    ("https://raw.githubusercontent.com/AdguardTeam/AdguardFilters/master/TrackParamFilter/sections/".toList ++
      "specific.txt".toList),
    ("https://raw.githubusercontent.com/AdguardTeam/AdguardFilters/master/TrackParamFilter/sections/".toList ++
      "general_url.txt".toList)]

def default : Config where
  filters := defaultFilters
  cacheDir := "filters-cache".toList
  updatePeriodHours := 6

structure Draft where
  filters : Option (List Text) := none
  cacheDir : Option Text := none
  updatePeriodHours : Option UInt64 := none
deriving DecidableEq, Repr

def Draft.complete (draft : Draft) : Config where
  filters := draft.filters.getD default.filters
  cacheDir := draft.cacheDir.getD default.cacheDir
  updatePeriodHours := draft.updatePeriodHours.getD default.updatePeriodHours

inductive Field where
  | filters | cacheDir | updatePeriodHours
deriving DecidableEq, Repr

def Field.name : Field → Text
  | .filters => "filters".toList
  | .cacheDir => "cache_dir".toList
  | .updatePeriodHours => "update_period_hours".toList

def Field.ofName? (name : Text) : Option Field :=
  [Field.filters, .cacheDir, .updatePeriodHours].find? fun field => field.name == name

def Draft.has (draft : Draft) : Field → Bool
  | .filters => draft.filters.isSome
  | .cacheDir => draft.cacheDir.isSome
  | .updatePeriodHours => draft.updatePeriodHours.isSome

def readField (draft : Draft) (text : Text) : Field → Except Fault (Draft × Text)
  | .filters => do
      let (filters, rest) ← readTextList text
      .ok ({ draft with filters := some filters }, rest)
  | .cacheDir => do
      let (cacheDir, rest) ← readText "path string".toList text
      .ok ({ draft with cacheDir := some cacheDir }, rest)
  | .updatePeriodHours => do
      let (hours, rest) ← readWord text
      .ok ({ draft with updatePeriodHours := some (UInt64.ofNat hours) }, rest)

/-- Where the second mention of a field is found to be one: behind its name, and behind the end of the object if that
follows. -/
def behindObject (text : Text) : Text :=
  match dropSpace text with
  | '\x7d' :: rest => rest
  | rest => rest

def readMember (draft : Draft) (text : Text) : Except Fault (Draft × Text) := do
  let (name, rest) ← readString text
  let field := Field.ofName? name
  if field.any draft.has then faultBehind (.duplicateField name) (behindObject rest)
  else match dropSpace rest with
    | ':' :: value =>
        match field with
        | some field => readField draft value field
        | none => do
            let behind ← skipAny value
            .ok (draft, behind)
    | [] => faultAt .endInObject []
    | other => faultAt .expectedColon other

def readMembers : Nat → Bool → Draft → Text → Except Fault (Draft × Text)
  | 0, _, _, text => faultAt .endInObject text
  | fuel + 1, first, draft, text =>
      let member (quoted : Text) : Except Fault (Draft × Text) := do
        let (next, behind) ← readMember draft quoted
        readMembers fuel false next behind
      match dropSpace text with
      | [] => faultAt .endInObject []
      | '\x7d' :: rest => .ok (draft, rest)
      | c :: rest =>
          if first then
            if c = '"' then member rest else faultAt .keyNotString (c :: rest)
          else if c = ',' then
            match dropSpace rest with
            | '"' :: quoted => member quoted
            | '\x7d' :: behind => faultAt .trailingComma ('\x7d' :: behind)
            | [] => faultAt .endInValue []
            | other => faultAt .keyNotString other
          else faultAt .expectedObjectEnd (c :: rest)

def readListEnd (draft : Draft) (text : Text) : Except Fault (Draft × Text) :=
  match dropSpace text with
  | ']' :: rest => .ok (draft, rest)
  | ',' :: rest =>
      match dropSpace rest with
      | ']' :: behind => faultAt .trailingComma (']' :: behind)
      | other => faultAt .trailingCharacters other
  | [] => faultAt .endInList []
  | other => faultAt .trailingCharacters other

def readElements : List Field → Bool → Draft → Text → Except Fault (Draft × Text)
  | [], _, draft, text => readListEnd draft text
  | field :: fields, first, draft, text =>
      let element (start : Text) : Except Fault (Draft × Text) := do
        let (next, behind) ← readField draft start field
        readElements fields false next behind
      match dropSpace text with
      | [] => faultAt .endInList []
      | ']' :: rest => .ok (draft, rest)
      | c :: rest =>
          if first then element (c :: rest)
          else if c = ',' then
            match dropSpace rest with
            | ']' :: behind => faultAt .trailingComma (']' :: behind)
            | [] => faultAt .endInValue []
            | start => element start
          else faultAt .expectedListEnd (c :: rest)

def readConfig (text : Text) : Except Fault (Draft × Text) :=
  match dropSpace text with
  | [] => faultAt .endInValue []
  | '\x7b' :: rest => readMembers (rest.length + 1) true {} rest
  | '[' :: rest => readElements [.filters, .cacheDir, .updatePeriodHours] true {} rest
  | start => refuse "struct Config".toList start

def ofJson (text : Text) : Except Fault Config := do
  let (draft, rest) ← readConfig text
  match dropSpace rest with
  | [] => .ok draft.complete
  | other => faultAt .trailingCharacters other

def validate (config : Config) : Except ConfigError Config :=
  if config.filters.isEmpty then .error .noSources
  else if config.updatePeriodHours = 0 then .error .noPeriod
  else .ok config

/-- The configuration of a file with the given text, or the default one, with extra filters. They are added to those of
a file, and take the place of the default ones. -/
def resolveWith (file : Option (Text × Except Text Text)) (extra : List Text) : Except ConfigError Config :=
  match file with
  | none => validate (if extra.isEmpty then default else { default with filters := extra })
  | some (path, .error reason) => .error (.unreadable path reason)
  | some (path, .ok text) =>
      match ofJson text with
      | .ok config => validate { config with filters := config.filters ++ extra }
      | .error fault => .error (.invalid path (fault.message text))

/-- How a program multiplies words. It is built either to end where the product does not fit into a word, or to go on
with what is left of it. -/
inductive Arithmetic where
  | checked | wrapping
deriving DecidableEq, Repr

/-- A product of words; `none` where the program ends. -/
def Arithmetic.multiply? (arithmetic : Arithmetic) (a b : UInt64) : Option UInt64 :=
  match arithmetic with
  | .wrapping => some (a * b)
  | .checked => if a.toNat * b.toNat < UInt64.size then some (a * b) else none

def updatePeriod? (arithmetic : Arithmetic) (config : Config) : Option UInt64 :=
  arithmetic.multiply? config.updatePeriodHours 3600

end Config
end LinkTidy
