import SensorGateway.Config.File

/-!
What the arguments of the program ask for.

Arguments are read from left to right, and the first one that settles the matter does: a request for
help or for the version is answered at once, and a mistake ends the reading. So a mistake behind a
request for help is never noticed, and a request for help behind a mistake is never answered.

An option that takes a value has it in the same argument, with or without an equals sign, or in the
next one. Behind two lone dashes nothing is an option.
-/

set_option autoImplicit false

namespace SensorGateway.Program

/-- How the gateway is to be run. -/
structure Options where
  /-- The port to listen on, in place of the one in the settings. -/
  port : Option UInt16 := none
  /-- The file of settings. -/
  configPath : Option String := none
  /-- Whether the operator has a console. -/
  console : Bool := true
deriving DecidableEq, Repr

/-- What the program is asked to do. -/
inductive Request where
  | help
  | version
  | serve (options : Options)
deriving DecidableEq, Repr

/-! ## One argument -/

/-- What one argument says on its own. -/
inductive Argument where
  | help
  | version
  | noConsole
  /-- A file of settings; without a path, the next argument is the path. -/
  | config (path : Option String)
  /-- Everything behind is plain. -/
  | endOfOptions
  | plain (text : String)
  | unknown
deriving DecidableEq, Repr

/-- An argument behind two dashes. -/
def longArgument (name : String) : Argument :=
  match name with
  | "help" => .help
  | "version" => .version
  | "no-console" => .noConsole
  | "config" => .config none
  | "" => .endOfOptions
  | _ =>
    if name.startsWith "config=" then .config (some (String.ofList (name.toList.drop 7)))
    else .unknown

/-- An argument behind one dash. The letter decides; only the option with a value looks at what
stands behind it. -/
def shortArgument : List Char → Argument
  | 'h' :: _ => .help
  | 'V' :: _ => .version
  | ['c'] => .config none
  | 'c' :: '=' :: path => .config (some (String.ofList path))
  | 'c' :: path => .config (some (String.ofList path))
  | _ => .unknown

/-- **What an argument says.** A lone dash is plain. -/
def Argument.ofText (text : String) : Argument :=
  match text.toList with
  | '-' :: '-' :: name => longArgument (String.ofList name)
  | ['-'] => .plain text
  | '-' :: letters => shortArgument letters
  | _ => .plain text

/-- The text of a plain argument. -/
def Argument.plain? : Argument → Option String
  | plain text => some text
  | _ => none

/-! ## All arguments -/

/-- A port: a number that is not 0 and fits in 16 bits. -/
def port? (text : String) : Option UInt16 :=
  match Text.integer? 1 Text.maxWord16 text.toList with
  | some n => some n.toNat.toUInt16
  | none => none

/-- Takes a plain argument, which is the port. There is one at most. -/
def Options.withPort? (o : Options) (text : String) : Option Options :=
  if o.port.isSome then none else (port? text).map fun p => { o with port := some p }

/-- Takes the path of the settings. There is one at most, and it is not empty. -/
def Options.withConfig? (o : Options) (path : String) : Option Options :=
  if o.configPath.isSome || path = "" then none else some { o with configPath := some path }

/-- Does without the console. That can be said once. -/
def Options.withoutConsole? (o : Options) : Option Options :=
  if o.console then some { o with console := false } else none

/-- **Reads arguments.** There is no answer if they make no sense. -/
def readArguments? (o : Options) : List String → Option Request
  | [] => some (.serve o)
  | text :: rest =>
    match Argument.ofText text with
    | .help => some .help
    | .version => some .version
    | .unknown => none
    | .endOfOptions => (rest.foldlM Options.withPort? o).map .serve
    | .noConsole => o.withoutConsole?.bind fun o => readArguments? o rest
    | .plain text => (o.withPort? text).bind fun o => readArguments? o rest
    | .config (some path) => (o.withConfig? path).bind fun o => readArguments? o rest
    | .config none =>
      match rest with
      | [] => none
      | value :: rest =>
        ((Argument.ofText value).plain?.bind o.withConfig?).bind fun o => readArguments? o rest

/-- The environment names a file of settings where the arguments do not. It cannot name an empty
path. -/
def Options.withEnvironment? (env : Config.Environment) (o : Options) : Option Options :=
  match o.configPath, env.get? Config.fileVariable with
  | none, some path => o.withConfig? path
  | _, _ => some o

/-- **What the program is asked to do,** by its arguments and its environment. -/
def Request.parse? (env : Config.Environment) (arguments : List String) : Option Request :=
  match readArguments? {} arguments with
  | some (.serve o) => (o.withEnvironment? env).map .serve
  | request => request

/-! ## Answers -/

/-- The name of the program and its version. -/
def versionText : String := "thermgate 0.1.0\n"

/-- How the program is called. -/
def usageText : String := "Usage: thermgate [OPTIONS] [PORT]\n"

/-- The answer to a request for help. It shows what the environment says. -/
def helpText (env : Config.Environment) : String :=
  "IoT telemetry gateway for temperature sensor nodes\n\n" ++ usageText ++ "
Arguments:
  [PORT]  Port to listen on (overrides network.port)

Options:
  -c, --config <CONFIG>  Path to a YAML config file [env: " ++ Config.fileVariable ++ "="
    ++ (env.get? Config.fileVariable).getD "" ++ "]
      --no-console       Run without the interactive console
  -h, --help             Print help
  -V, --version          Print version
"

end SensorGateway.Program
