/-!
# The command line

`Options.ofArguments` reads the arguments of the daemon from left to right. It gives up at the first one that is wrong, and
also at a request for help or for the version, whatever comes after. An option may be given once.

A switch stands for itself, and several may share one hyphen, as in `-dq`. A field has a value: joined to it by an equals
sign, directly behind its letter, or as the next argument, which must not look like an option then.
-/

namespace Supervision

/-- What the command line asks of the daemon. -/
structure Options where
  /-- The configuration file. -/
  config : String := "supervisor.toml"
  debug : Bool := false
  verbose : Bool := false
  quiet : Bool := false
  logFormat : Option String := none
  logFile : Option String := none
  validateConfig : Bool := false
  printConfig : Bool := false
  dryRun : Bool := false
deriving DecidableEq, Repr, Inhabited

/-- Why the daemon does not get to work. -/
inductive Dismissal where
  | help
  | version
  /-- The arguments are wrong. -/
  | misuse
deriving DecidableEq, Repr

namespace Options

/-- An option that has no value. -/
inductive Switch where
  | debug
  | verbose
  | quiet
  | validateConfig
  | printConfig
  | dryRun
  | help
  | version
deriving DecidableEq, Repr

/-- An option that has a value. -/
inductive Field where
  | config
  | logFormat
  | logFile
deriving DecidableEq, Repr

/-- An option. -/
inductive Name where
  | switch (switch : Switch)
  | field (field : Field)
deriving DecidableEq, Repr

/-- The option of a long name. -/
def Name.ofLong? : String → Option Name
  | "config" => some (.field .config)
  | "debug" => some (.switch .debug)
  | "verbose" => some (.switch .verbose)
  | "quiet" => some (.switch .quiet)
  | "log-format" => some (.field .logFormat)
  | "log-file" => some (.field .logFile)
  | "validate-config" => some (.switch .validateConfig)
  | "print-config" => some (.switch .printConfig)
  | "dry-run" => some (.switch .dryRun)
  | "help" => some (.switch .help)
  | "version" => some (.switch .version)
  | _ => none

/-- The option of a letter. -/
def Name.ofLetter? : Char → Option Name
  | 'c' => some (.field .config)
  | 'd' => some (.switch .debug)
  | 'v' => some (.switch .verbose)
  | 'q' => some (.switch .quiet)
  | 'h' => some (.switch .help)
  | 'V' => some (.switch .version)
  | _ => none

/-- The options read so far, and which of them were given. -/
structure Reading where
  options : Options := {}
  given : List Name := []

namespace Reading

/-- Notes that an option was given, which must be the first time. -/
def mark (r : Reading) (name : Name) : Except Dismissal Reading :=
  if name ∈ r.given then .error .misuse else .ok { r with given := name :: r.given }

/-- Takes a switch. -/
def switch (r : Reading) (s : Switch) : Except Dismissal Reading := do
  let r ← r.mark (.switch s)
  match s with
  | .debug => return { r with options.debug := true }
  | .verbose => return { r with options.verbose := true }
  | .quiet => return { r with options.quiet := true }
  | .validateConfig => return { r with options.validateConfig := true }
  | .printConfig => return { r with options.printConfig := true }
  | .dryRun => return { r with options.dryRun := true }
  | .help => throw .help
  | .version => throw .version

/-- Takes a field with its value. -/
def assign (r : Reading) (f : Field) (value : String) : Except Dismissal Reading := do
  let r ← r.mark (.field f)
  match f with
  | .config => return { r with options.config := value }
  | .logFormat => return { r with options.logFormat := some value }
  | .logFile => return { r with options.logFile := some value }

/-- Takes letters behind one hyphen. Answers with the field that still waits for its value, if there is one. -/
def letters (r : Reading) : List Char → Except Dismissal (Reading × Option Field)
  | [] => .ok (r, none)
  | c :: rest =>
    match Name.ofLetter? c with
    | none => .error .misuse
    | some (.switch s) =>
      match r.switch s with
      | .ok r => r.letters rest
      | .error d => .error d
    | some (.field f) =>
      match rest with
      | [] => .ok (r, some f)
      | '=' :: value => (r.assign f (String.ofList value)).map (·, none)
      | value => (r.assign f (String.ofList value)).map (·, none)

/-- Takes a long name, with the value that an equals sign joined to it, if there is one. -/
def long (r : Reading) (name : String) (value : Option String) : Except Dismissal (Reading × Option Field) :=
  match Name.ofLong? name, value with
  | some (.switch s), none => (r.switch s).map (·, none)
  | some (.field f), none => .ok (r, some f)
  | some (.field f), some value => (r.assign f value).map (·, none)
  | _, _ => .error .misuse

/-- Takes one argument. -/
def argument (r : Reading) (argument : String) : Except Dismissal (Reading × Option Field) :=
  match argument.toList with
  | '-' :: '-' :: text =>
    let value := match text.dropWhile (· != '=') with
      | _ :: value => some (String.ofList value)
      | [] => none
    r.long (String.ofList (text.takeWhile (· != '='))) value
  | '-' :: c :: rest => r.letters (c :: rest)
  | _ => .error .misuse

/-- Whether an argument can be the value of the field before it. -/
def isValue (argument : String) : Bool :=
  argument = "-" || argument.toList.head? != some '-'

/-- Takes all arguments, the first of which may have to be the value of a field. Two hyphens alone end the options, and
nothing may follow them. -/
def arguments (r : Reading) : Option Field → List String → Except Dismissal Options
  | none, [] => .ok r.options
  | some _, [] => .error .misuse
  | some f, value :: rest =>
    if isValue value then
      match r.assign f value with
      | .ok r => r.arguments none rest
      | .error d => .error d
    else .error .misuse
  | none, argument :: rest =>
    if argument = "--" then
      if rest.isEmpty then .ok r.options else .error .misuse
    else
      match r.argument argument with
      | .ok (r, waiting) => r.arguments waiting rest
      | .error d => .error d

end Reading

/-- Reads the arguments of the daemon. -/
def ofArguments (arguments : List String) : Except Dismissal Options :=
  Reading.arguments {} none arguments

end Options

/-- The version of the daemon. -/
def daemonVersion : String := "0.1.0"

namespace Dismissal

/-- The name and the version of the daemon. -/
def versionLine : String :=
  s!"lifecycle-supervisor {daemonVersion}"

/-- How the daemon is called. -/
def usage : List String := [
  "Usage: lifecycle-supervisor [OPTIONS]",
  "",
  "  -c, --config <CONFIG>      configuration file [default: supervisor.toml]",
  "  -d, --debug                log everything",
  "  -v, --verbose              log at level info",
  "  -q, --quiet                log errors only",
  "      --log-format <FORMAT>  json, pretty or compact",
  "      --log-file <PATH>      write the log to a file as well",
  "      --validate-config      validate the configuration and exit",
  "      --print-config         print the default configuration and exit",
  "      --dry-run              register components, but do not start them",
  "  -h, --help                 print help",
  "  -V, --version              print the version"]

/-- The exit status of a daemon that was dismissed. -/
def status : Dismissal → Int32
  | help | version => 0
  | misuse => 2

end Dismissal

end Supervision
