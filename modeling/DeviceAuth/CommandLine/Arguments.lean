/-!
**Arguments of programs.** A program has general options, then commands with options of their own.
Options are spelled `--name value`, `--name=value`, or with one letter; each may be given once, and
a value that looks like an option must be attached with an equals sign.

What is asked for first counts: help and version end the reading where they stand. A value in a word
of its own is judged when the next option begins or no more words come, so a command that follows it
is read first, and may ask for help.
-/

namespace DeviceAuth.CommandLine

/-- What an option is for. -/
inductive OptionKind where
  /-- It is there or not. -/
  | flag
  /-- It has a value. -/
  | text
  /-- It has a value that is not empty. -/
  | path
  /-- It asks for help. -/
  | help
  /-- It asks for the version. -/
  | version
  deriving DecidableEq, Repr

namespace OptionKind

/-- Whether options of this kind have a value. -/
def takesValue : OptionKind → Bool
  | text | path => true
  | _ => false

end OptionKind

/-- An option that a program or a command has. -/
structure OptionRule where
  name : String
  kind : OptionKind
  letter : Option Char := none
  required : Bool := false
  about : String := ""
  /-- The value that it has where it is not given. -/
  fallback : Option String := none

/-- The option that asks for help. -/
def helpOption : OptionRule :=
  { name := "help", kind := .help, letter := some 'h', about := "Print help" }

/-- The option that asks for the version. -/
def versionOption : OptionRule :=
  { name := "version", kind := .version, letter := some 'V', about := "Print version" }

/-- A command of a program. -/
structure CommandRule where
  name : String
  about : String
  options : List OptionRule := []

/-- A program and what it can be asked for. -/
structure Program where
  name : String
  /-- What it calls itself beside its version. -/
  versionLine : String
  about : String
  options : List OptionRule := []
  commands : List CommandRule
  /-- Whether a command must be given. -/
  commandRequired : Bool

/-- Why the arguments ask for no command. -/
inductive Stop where
  /-- They ask for help on a command, which may be `help` itself, or on the program. -/
  | help (command : Option String)
  | version
  /-- They are not understood. -/
  | misuse
  deriving DecidableEq, Repr

/-- Options that are given, by name; a flag has an empty value. -/
abbrev Given := List (String × String)

/-- What the arguments ask for. -/
structure Invocation where
  general : Given
  command : Option String
  given : Given
  deriving DecidableEq, Repr

/-! ### Words -/

/-- What a word is. -/
inductive Word where
  | plain
  /-- Two dashes, after which no options stand. -/
  | separator
  | long (name : String) (value : Option String)
  | short (letter : Char) (more : List Char)

/-- What a word is. -/
def Word.ofText (text : String) : Word :=
  match text.toList with
  | ['-', '-'] => .separator
  | '-' :: '-' :: chars =>
    let name := String.ofList (chars.takeWhile (· != '='))
    match chars.dropWhile (· != '=') with
    | [] => .long name none
    | _ :: value => .long name (some (String.ofList value))
  | '-' :: letter :: more => .short letter more
  | _ => .plain

/-- Whether a word can be the value of the option before it. -/
def isValue (text : String) : Bool :=
  match Word.ofText text with
  | .plain => true
  | _ => false

/-- The option that a word names. -/
def OptionRule.matches (word : Word) (rule : OptionRule) : Bool :=
  match word with
  | .long name _ => rule.name == name
  | .short letter _ => rule.letter == some letter
  | _ => false

/-- The value that a word attaches to its option. -/
def Word.attached (word : Word) (kind : OptionKind) : Option String :=
  match word with
  | .long _ value => value
  | .short _ more =>
    match kind.takesValue, more with
    | true, '=' :: rest => some (String.ofList rest)
    | true, first :: rest => some (String.ofList (first :: rest))
    | _, _ => none
  | _ => none

/-! ### Reading -/

/-- Notes the value of an option. -/
def accept (rule : OptionRule) (value : String) (given : Given) : Except Stop Given :=
  if (given.lookup rule.name).isSome then .error .misuse
  else if rule.kind = .path ∧ value = "" then .error .misuse
  else .ok (given ++ [(rule.name, value)])

/-- The options read so far. -/
structure Reading where
  given : Given := []
  /-- The last option, where its value is a word of its own. -/
  waiting : Option (OptionRule × String) := none

/-- The options that are given, when the last value is noted too. -/
def Reading.settle (reading : Reading) : Except Stop Given :=
  match reading.waiting with
  | none => .ok reading.given
  | some (rule, value) => accept rule value reading.given

/-- Reads options up to the first word that is none. An option begins when the one before it is
settled; what the last one has for a value is left for later. -/
def scan (rules : List OptionRule) (command : Option String) (reading : Reading) :
    List String → Except Stop (Reading × List String)
  | [] => .ok (reading, [])
  | text :: rest =>
    let word := Word.ofText text
    match word with
    | .plain => .ok (reading, text :: rest)
    | .separator => if rest.isEmpty then .ok (reading, []) else .error .misuse
    | _ =>
      match rules.find? (OptionRule.matches word), reading.settle with
      | some rule, .ok given =>
        match rule.kind, word.attached rule.kind, rest with
        | .help, none, _ => .error (.help command)
        | .version, none, _ => .error .version
        | .flag, none, rest => do
          scan rules command { given := ← accept rule "" given } rest
        | .text, some value, rest | .path, some value, rest => do
          scan rules command { given := ← accept rule value given } rest
        | .text, none, value :: rest | .path, none, value :: rest =>
          if isValue value then scan rules command { given, waiting := some (rule, value) } rest
          else .error .misuse
        | _, _, _ => .error .misuse
      | _, _ => .error .misuse

/-- Whether all options that a command requires are given. -/
def complete (rules : List OptionRule) (given : Given) : Bool :=
  rules.all fun rule => !rule.required || (given.lookup rule.name).isSome

/-- The help that is asked for with the words after the command `help`. -/
def Program.helpOn (program : Program) : List String → Stop
  | [] => .help none
  | [name] =>
    if name = "help" ∨ program.commands.any fun command => command.name == name then
      .help (some name)
    else .misuse
  | _ => .misuse

/-- Reads the arguments of a command. -/
def CommandRule.read (command : CommandRule) (arguments : List String) : Except Stop Given := do
  let rules := command.options ++ [helpOption]
  let (reading, rest) ← scan rules (some command.name) {} arguments
  let given ← reading.settle
  if rest.isEmpty ∧ complete rules given then return given else .error .misuse

/-- Reads the arguments of a program. The arguments of a command are read before the last general
option in front of it is settled. -/
def Program.read (program : Program) (arguments : List String) : Except Stop Invocation := do
  let (reading, rest) ← scan (program.options ++ [helpOption, versionOption]) none {} arguments
  match rest with
  | [] =>
    if program.commandRequired then .error .misuse
    else return { general := ← reading.settle, command := none, given := [] }
  | name :: rest =>
    match program.commands.find? fun command => command.name == name with
    | some command =>
      let given ← command.read rest
      return { general := ← reading.settle, command := some name, given }
    | none => .error (if name = "help" then program.helpOn rest else .misuse)

/-- The paths among the values that the arguments give to options. -/
def Program.pathsIn (program : Program) (arguments : List String) : List String :=
  let rules := program.options ++ program.commands.flatMap CommandRule.options
  let isPath (name : String) : Bool :=
    rules.any fun rule => rule.name == name && rule.kind == .path
  match program.read arguments with
  | .error _ => []
  | .ok invocation =>
    ((invocation.general ++ invocation.given).filter fun option => isPath option.1).map Prod.snd

/-! ### Help -/

/-- The name of an option's value. -/
def OptionRule.valueName (rule : OptionRule) : String :=
  String.ofList (rule.name.toList.map fun char => if char = '-' then '_' else char.toUpper)

/-- An option with its value, as it is typed. -/
def OptionRule.usage (rule : OptionRule) : String :=
  "--" ++ rule.name ++ (if rule.kind.takesValue then " <" ++ rule.valueName ++ ">" else "")

/-- An option in a list of options. -/
def OptionRule.entry (rule : OptionRule) : String × String :=
  let letter := match rule.letter with
    | some letter => "-" ++ String.ofList [letter] ++ ", "
    | none => "    "
  let fallback := match rule.fallback with
    | some value => ["[default: " ++ value ++ "]"]
    | none => []
  let about := if rule.about = "" then [] else [rule.about]
  (letter ++ rule.usage, " ".intercalate (about ++ fallback))

/-- Entries in two columns. -/
def columns (entries : List (String × String)) : String :=
  let width := entries.foldl (fun width entry => max width entry.1.length) 0
  String.join (entries.map fun (left, right) =>
    "  " ++ left ++ String.ofList (List.replicate (width - left.length + 2) ' ') ++ right ++ "\n")

/-- The help on a command. -/
def CommandRule.help (program : Program) (command : CommandRule) : String :=
  let required := command.options.filter fun rule => rule.required
  let optional := command.options.any fun rule => !rule.required
  let words := [program.name, command.name] ++ (if optional then ["[OPTIONS]"] else [])
    ++ required.map OptionRule.usage
  command.about ++ "\n\nUsage: " ++ " ".intercalate words ++ "\n\nOptions:\n"
    ++ columns ((command.options ++ [helpOption]).map OptionRule.entry)

/-- What the command `help` does. -/
def helpPurpose : String := "Print this message or the help of the given subcommand(s)"

/-- The help on the command `help`, which has no options. -/
def Program.helpOnHelp (program : Program) : String :=
  helpPurpose ++ "\n\nUsage: " ++ program.name ++ " help [COMMAND]...\n\nArguments:\n"
    ++ columns [("[COMMAND]...", "Print help for the subcommand(s)")]

/-- The help on a program. -/
def Program.help (program : Program) : String :=
  let words := [program.name] ++ (if program.options.isEmpty then [] else ["[OPTIONS]"])
    ++ [if program.commandRequired then "<COMMAND>" else "[COMMAND]"]
  let commands := program.commands.map fun command => (command.name, command.about)
  program.about ++ "\n\nUsage: " ++ " ".intercalate words ++ "\n\nCommands:\n"
    ++ columns (commands ++ [("help", helpPurpose)])
    ++ "\nOptions:\n"
    ++ columns ((program.options ++ [helpOption, versionOption]).map OptionRule.entry)

end DeviceAuth.CommandLine
