import LinkTidy.Text
/-!
The command line: which command is asked for, with which options. Options may be written long or short, short ones
together, and with their value attached or behind them.
-/

set_option autoImplicit false

namespace LinkTidy.Command

structure SourceOptions where
  config : Option Text := none
  filters : List Text := []
  parity : Bool := false
deriving DecidableEq, Repr

inductive Request where
  | compile (inputs : List Text) (verbose dump : Bool)
  | clean (sources : SourceOptions) (texts : List Text)
  | watch (sources : SourceOptions)
  | help
deriving DecidableEq, Repr

inductive Verb where
  | compile | clean | watch
deriving DecidableEq, Repr

inductive OptionName where
  | input | verbose | dump | config | filter | parity | help
deriving DecidableEq, Repr

def OptionName.takesValue : OptionName → Bool
  | .input | .config | .filter => true
  | _ => false

def OptionName.isRepeatable : OptionName → Bool
  | .input | .filter => true
  | _ => false

def Verb.options : Verb → List (String × Option Char × OptionName)
  | .compile => [("input", some 'i', .input), ("verbose", some 'v', .verbose), ("dump", none, .dump), helpOption]
  | .clean | .watch =>
      [("config", some 'c', .config), ("filter", some 'f', .filter), ("parity", none, .parity), helpOption]
where
  helpOption : String × Option Char × OptionName := ("help", some 'h', .help)

def Verb.long? (verb : Verb) (spelling : Text) : Option OptionName :=
  (verb.options.find? fun entry => entry.1.toList == spelling).map (·.2.2)

def Verb.short? (verb : Verb) (letter : Char) : Option OptionName :=
  (verb.options.find? fun entry => entry.2.1 == some letter).map (·.2.2)

structure Given where
  options : List (OptionName × Text) := []
  texts : List Text := []
deriving DecidableEq, Repr

/-- Notes an option. One that is not repeatable may be given once, and a file cannot have an empty path. -/
def Given.note? (given : Given) (name : OptionName) (value : Text) : Option Given :=
  if (!name.isRepeatable && given.options.any (·.1 == name)) || (name == .config && value.isEmpty) then none
  else some { given with options := given.options ++ [(name, value)] }

/-- Whether an argument is an option or ends the options, and so is no value of an option before it. -/
def looksLikeOption : Text → Bool
  | '-' :: _ :: _ => true
  | _ => false

inductive Cluster where
  | done (given : Given)
  /-- The value of the last option is the next argument. -/
  | wants (given : Given) (name : OptionName)
  | help
  | bad

def readCluster (verb : Verb) (given : Given) : Text → Cluster
  | [] => .done given
  | letter :: rest =>
      match verb.short? letter with
      | none => .bad
      | some .help => .help
      | some name =>
          if name.takesValue then
            if rest.isEmpty then .wants given name
            else
              let value := match rest with
                | '=' :: attached => attached
                | attached => attached
              match given.note? name value with
              | some next => .done next
              | none => .bad
          else
            match given.note? name [] with
            | some next => readCluster verb next rest
            | none => .bad

inductive Parsed where
  | given (given : Given)
  | help
  | bad

/-- Reads the arguments of a command. `wanting` is an option whose value has not been read, and `literally` is true
behind the sign that ends the options. -/
def readArguments (verb : Verb) (wanting : Option OptionName) (literally : Bool) (given : Given) :
    List Text → Parsed
  | [] => if wanting.isSome then .bad else .given given
  | argument :: rest =>
      if literally then readArguments verb none true { given with texts := given.texts ++ [argument] } rest
      else
        match wanting with
        | some name =>
            if looksLikeOption argument then .bad
            else
              match given.note? name argument with
              | some next => readArguments verb none false next rest
              | none => .bad
        | none =>
            match argument with
            | ['-', '-'] => readArguments verb none true given rest
            | '-' :: '-' :: long =>
                let spelling := long.takeWhile (· != '=')
                match verb.long? spelling, long.dropWhile (· != '=') with
                | none, _ => .bad
                | some .help, [] => .help
                | some name, [] =>
                    if name.takesValue then readArguments verb (some name) false given rest
                    else
                      match given.note? name [] with
                      | some next => readArguments verb none false next rest
                      | none => .bad
                | some name, _ :: value =>
                    if name.takesValue then
                      match given.note? name value with
                      | some next => readArguments verb none false next rest
                      | none => .bad
                    else .bad
            | '-' :: letter :: letters =>
                match readCluster verb given (letter :: letters) with
                | .done next => readArguments verb none false next rest
                | .wants next name => readArguments verb (some name) false next rest
                | .help => .help
                | .bad => .bad
            | _ => readArguments verb none false { given with texts := given.texts ++ [argument] } rest

def Given.values (given : Given) (name : OptionName) : List Text :=
  (given.options.filter (·.1 == name)).map (·.2)

def Given.has (given : Given) (name : OptionName) : Bool :=
  given.options.any (·.1 == name)

def Given.sources (given : Given) : SourceOptions where
  config := (given.values .config).head?
  filters := given.values .filter
  parity := given.has .parity

/-- The request that the arguments of a command make. Compiling needs an input, and only cleaning takes texts. -/
def Given.request? (given : Given) : Verb → Option Request
  | .compile =>
      if given.has .input && given.texts.isEmpty then
        some (.compile (given.values .input) (given.has .verbose) (given.has .dump))
      else none
  | .clean => some (.clean given.sources given.texts)
  | .watch => if given.texts.isEmpty then some (.watch given.sources) else none

def verb? (name : Text) : Option Verb :=
  if name = "compile".toList then some .compile
  else if name = "clean".toList then some .clean
  else if name = "watch".toList then some .watch
  else none

def helpOn? : List Text → Option Request
  | [] => some .help
  | [name] => if (verb? name).isSome ∨ name = "help".toList then some .help else none
  | _ => none

def Request.ofArguments? : List Text → Option Request
  | [] => none
  | name :: rest =>
      match verb? name with
      | some verb =>
          match readArguments verb none false {} rest with
          | .given given => given.request? verb
          | .help => some .help
          | .bad => none
      | none =>
          if name = "--help".toList ∨ name = "-h".toList then some .help
          else if name = "help".toList then helpOn? rest
          else none

end LinkTidy.Command
