import DeviceAuth.Auth.Storage
import DeviceAuth.CommandLine.Arguments

/-!
**How a program ends:** a code, what it printed, and the files after it. Code 0 is success, 1 a
failure with a reason, 2 arguments that are not understood, 101 a call that was abandoned.
-/

namespace DeviceAuth.CommandLine

/-- What a program runs in. -/
structure Surroundings where
  disk : Disk
  /-- The variables of the environment. -/
  environment : String → Option String
  now : Instant
  /-- Random bytes, as many as the program needs. -/
  random : Bytes

/-- How a program ended. -/
structure Outcome where
  code : Nat
  /-- What it printed to standard output. -/
  output : String := ""
  /-- What it printed to standard error. -/
  errors : String := ""
  disk : Disk

namespace Outcome

/-- Success. -/
def success (disk : Disk) (output : String) : Outcome :=
  { code := 0, output, disk }

/-- The end of a call that was abandoned. -/
def abandoned (disk : Disk) : Outcome :=
  { code := 101, disk }

/-- A cause with its lines indented, and numbered if there are several causes. -/
def causeLines (number : Option Nat) (cause : String) : String :=
  let (first, rest) := match number with
    | some number => ("    " ++ toString number ++ ": ", "       ")
    | none => ("    ", "    ")
  "\n" ++ first ++ ("\n" ++ rest).intercalate (cause.splitOn "\n")

/-- What failed, and what caused it in turn. -/
def renderChain : List String → String
  | [] => "Error: \n"
  | [reason] => "Error: " ++ reason ++ "\n"
  | [reason, cause] => "Error: " ++ reason ++ "\n\nCaused by:" ++ causeLines none cause ++ "\n"
  | reason :: causes =>
    "Error: " ++ reason ++ "\n\nCaused by:"
      ++ String.join (causes.mapIdx fun index cause => causeLines (some index) cause) ++ "\n"

/-- Failure with a reason and what caused it in turn. -/
def failure (disk : Disk) (chain : List String) : Outcome :=
  { code := 1, errors := renderChain chain, disk }

/-- Why a command ends early. -/
inductive Ending where
  /-- What failed, and what caused it in turn. -/
  | failure (chain : List String)
  | abandoned

/-- How a program ended whose command ended early. -/
def early (disk : Disk) : Ending → Outcome
  | .failure chain => failure disk chain
  | .abandoned => abandoned disk

/-- The end of a program whose arguments ask for no command. -/
def ofStop (program : Program) (disk : Disk) : Stop → Outcome
  | .help none => success disk program.help
  | .help (some name) =>
    match program.commands.find? fun command => command.name == name with
    | some command => success disk (command.help program)
    | none => success disk program.helpOnHelp
  | .version => success disk (program.versionLine ++ "\n")
  | .misuse =>
    { code := 2, errors := "error: the arguments are not understood, try --help\n", disk }

end Outcome

end DeviceAuth.CommandLine
