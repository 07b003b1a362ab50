import ShardStore.CommandLine.Similarity
import ShardStore.Text.Terminal

/-!
# Command line options

What the arguments ask the program to do, and what is said about arguments that make no sense. Arguments are taken from
left to right. An option that asks for help or for the version acts where it stands, and the value of the configuration
option is judged only when the next option, or the end, is reached.
-/

namespace ShardStore.CommandLine

/-- The options of the program. -/
inductive Flag where
  | cfg
  | help
  | version
deriving DecidableEq

namespace Flag

/-- All options. -/
def all : List Flag := [.cfg, .help, .version]

/-- The long name of an option. -/
def name : Flag → String
  | .cfg => "cfg"
  | .help => "help"
  | .version => "version"

/-- The option of a long name. -/
def ofName? (name : String) : Option Flag := all.find? (·.name = name)

/-- An option as it is written with its value. -/
def usage : Flag → String
  | .cfg => "--cfg <FILE>"
  | f => "--" ++ f.name

end Flag

/-- What the arguments ask for. -/
inductive Request where
  /-- To run the workload, with a configuration file of the user's own or not. -/
  | run (cfg : Option String)
  | help
  | version
deriving DecidableEq

/-- What is wrong with the arguments. -/
inductive UsageError where
  /-- The configuration option has no value. -/
  | missingValue
  /-- The configuration option is given twice. -/
  | repeated
  /-- There is no such argument. -/
  | unexpected (argument : String) (meant : Option Flag) (used : List Flag)
  /-- An option without a value was given one, perhaps after a configuration file. -/
  | unwantedValue (value : String) (flag : Flag) (afterCfg : Bool)
deriving DecidableEq

/-- The line that shows how the program is used: with the options that were meant, if any are known. -/
def usageLine (options : List String) : String :=
  "Usage: txmap " ++ " ".intercalate (if options.isEmpty then ["[OPTIONS]"] else options)

/-- What is said about the arguments. -/
def UsageError.message (e : UsageError) : String :=
  "error: " ++ "\n\n".intercalate (parts ++ ["For more information, try '--help'.\n"])
where
  parts : List String :=
    match e with
    | .missingValue => ["a value is required for '--cfg <FILE>' but none was supplied"]
    | .repeated => ["the argument '--cfg <FILE>' cannot be used multiple times", usageLine []]
    | .unexpected argument meant used =>
      let tip := meant.map fun f => "  tip: a similar argument exists: '--" ++ f.name ++ "'"
      ["unexpected argument '" ++ shownText argument ++ "' found"] ++ tip.toList ++ [usageLine (used.map Flag.usage)]
    | .unwantedValue value flag afterCfg =>
      let others := if afterCfg then ["<" ++ Flag.cfg.usage ++ ">"] else []
      ["unexpected value '" ++ shownText value ++ "' for '" ++ flag.usage ++ "' found; no more were expected",
        usageLine (flag.usage :: others)]

/-- The help text. -/
def helpText : String :=
  "\n".intercalate
    ["txmap - sharded in-memory transaction hash maps", "", usageLine [], "", "Options:",
      "  -c, --cfg <FILE>  Custom config file path", "  -h, --help        Print help",
      "  -V, --version     Print version", ""]

/-- The version text. -/
def versionText : String := "txmap 0.1.0\n"

/-- The arguments so far. -/
structure Progress where
  /-- The accepted value of the configuration option. -/
  cfg : Option String := none
  /-- The configuration option was given, and its value was not judged yet or has not come yet. -/
  pending : Option (Option String) := none

namespace Progress

/-- Accepts a value of the configuration option. -/
def accept (p : Progress) (value : String) : Except UsageError Progress :=
  if p.cfg.isSome then .error .repeated
  else if value.isEmpty then .error .missingValue
  else .ok { cfg := some value }

/-- Judges the value that is waiting. -/
def settle (p : Progress) : Except UsageError Progress :=
  match p.pending with
  | none => .ok p
  | some none => .error .missingValue
  | some (some value) => { p with pending := none }.accept value

/-- The options that count as given when an unknown one is met: the configuration option does unless it waits for a value
or was given twice. -/
def given (p : Progress) : List Flag :=
  let counts := match p.pending with
    | some (some _) => p.cfg.isNone
    | _ => p.cfg.isSome
  if counts then [.cfg] else []

/-- Takes the configuration option with the value that is attached to it, or waits for one. -/
def takeCfg (p : Progress) (value : Option String) : Except UsageError Progress := do
  let p ← p.settle
  match value with
  | some value => p.accept value
  | none => return { p with pending := some none }

/-- Takes a long option. Answers a request if it makes one. -/
def takeLong (p : Progress) (name : String) (value : Option String) : Except UsageError (Progress ⊕ Request) :=
  match Flag.ofName? name, value with
  | some .cfg, value => (p.takeCfg value).map .inl
  | some flag, some value => .error (.unwantedValue value flag p.cfg.isSome)
  | some .help, none => p.settle.map fun _ => .inr .help
  | some .version, none => p.settle.map fun _ => .inr .version
  | none, _ =>
    let meant := (mostAlike? name (Flag.all.map Flag.name)).bind Flag.ofName?
    let used := p.given ++ (meant.toList.filter fun f => !p.given.contains f)
    .error (.unexpected ("--" ++ name) meant used)

/-- Takes a cluster of short options. The first of them decides, as none of those that could be followed by others lets
the program go on. -/
def takeShort (p : Progress) (cluster : List Char) : Except UsageError (Progress ⊕ Request) :=
  match cluster with
  | 'h' :: _ => p.settle.map fun _ => .inr .help
  | 'V' :: _ => p.settle.map fun _ => .inr .version
  | 'c' :: value =>
    let attached := match value with
      | [] => none
      | '=' :: value => some (String.ofList value)
      | value => some (String.ofList value)
    (p.takeCfg attached).map .inl
  | c :: _ => .error (.unexpected (String.ofList ['-', c]) none [])
  | [] => .ok (.inl p)

/-- The request at the end of the arguments. -/
def finish (p : Progress) : Except UsageError Request := p.settle.map fun p => .run p.cfg

end Progress

/-- Takes the arguments one after another. -/
def takeAll : Progress → List String → Except UsageError Request
  | p, [] => p.finish
  | p, argument :: rest =>
    match argument.toList with
    | ['-', '-'] =>
      match rest with
      | [] => p.finish
      | extra :: _ => .error (.unexpected extra none [])
    | '-' :: '-' :: text => do
      let name := text.takeWhile (· != '=')
      let value := match text.drop name.length with
        | '=' :: value => some (String.ofList value)
        | _ => none
      match ← p.takeLong (String.ofList name) value with
      | .inl p => takeAll p rest
      | .inr request => return request
    | '-' :: c :: cluster => do
      match ← p.takeShort (c :: cluster) with
      | .inl p => takeAll p rest
      | .inr request => return request
    | _ =>
      match p.pending with
      | some none => takeAll { p with pending := some (some argument) } rest
      | _ => .error (.unexpected argument none [])

/-- What the arguments ask for. -/
def parse (arguments : List String) : Except UsageError Request := takeAll {} arguments

end ShardStore.CommandLine
