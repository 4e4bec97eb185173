import EvidenceTree.CommandLine.Command

/-!
# The grammar of command lines

Commands form levels: the program itself, its commands, and their commands. Each level has options
of its own, and a few that all levels share; a level may also have one argument by position.
-/

namespace EvidenceTree.CommandLine

/-! ## Parameters -/

/-- What can be given on a command line, by an option or by position. -/
inductive Parameter where
  | debug
  | settingsFile
  | help
  | version
  | dataFile
  | pair
  | recordFile
  | trace
  | json
  | ignoreCase
  | keyPolicy
  | recordsFile
  | file
  | shell
  deriving DecidableEq

/-- How a parameter is given: as a question that ends the run, as a mark that stands once or any
number of times, or with a value, acceptable and once or any number of times. -/
inductive Form where
  | asksHelp
  | asksVersion
  | mark
  | counted
  | once (accepts : String → Bool)
  | repeated

namespace Parameter

/-- A path: not empty. -/
def isPath (s : String) : Bool := !s.isEmpty

/-- The form of a parameter. -/
def form : Parameter → Form
  | help => .asksHelp
  | version => .asksVersion
  | debug => .counted
  | trace | json | ignoreCase => .mark
  | pair => .repeated
  | settingsFile | dataFile | recordFile | recordsFile | file => .once isPath
  | keyPolicy => .once fun s => (KeyPolicy.ofName? s).isSome
  | shell => .once fun s => (Shell.ofName? s).isSome

/-- A parameter that comes with a value. -/
def takesValue (p : Parameter) : Bool :=
  match p.form with
  | .once _ | .repeated => true
  | _ => false

/-- The letter of an option. -/
def letter? : Parameter → Option Char
  | debug => some 'd'
  | settingsFile => some 'c'
  | help => some 'h'
  | version => some 'V'
  | dataFile => some 'f'
  | pair => some 'e'
  | _ => none

/-- The name of an option. -/
def name? : Parameter → Option String
  | debug => some "debug"
  | settingsFile => some "config"
  | help => some "help"
  | version => some "version"
  | dataFile => some "data"
  | pair => some "evidence"
  | recordFile => some "evidence-json"
  | trace => some "trace"
  | json => some "json"
  | ignoreCase => some "ignore-case"
  | keyPolicy => some "key-policy"
  | _ => none

end Parameter

/-! ## Levels -/

/-- A level of commands. -/
inductive Level where
  | program
  | resolve
  | batch
  | info
  | outline
  | validate
  | settings
  | settingsText
  | settingsTemplate
  | settingsLocation
  | completion
  deriving DecidableEq

namespace Level

/-- The commands of a level. -/
def commands : Level → List (String × Level)
  | program =>
    [("resolve", resolve), ("batch", batch), ("info", info), ("show", outline),
      ("validate", validate), ("config", settings), ("completion", completion)]
  | settings =>
    [("show", settingsText), ("template", settingsTemplate), ("path", settingsLocation)]
  | _ => []

/-- The level of a command. -/
def command? (level : Level) (name : String) : Option Level := level.commands.lookup name

/-- A name stands for a command of a level, or for its help. -/
def isCommand (level : Level) (name : String) : Bool :=
  (level.command? name).isSome || (!level.commands.isEmpty && name == "help")

/-- The options that all levels share. -/
def sharedOptions : List Parameter := [.debug, .settingsFile, .help, .version]

/-- The options of a level. -/
def options (level : Level) : List Parameter :=
  sharedOptions ++
    match level with
    | resolve => [.dataFile, .pair, .recordFile, .trace, .json, .ignoreCase, .keyPolicy]
    | batch => [.dataFile, .json, .ignoreCase, .keyPolicy]
    | info | outline => [.dataFile]
    | _ => []

/-- The argument that a level takes by position. -/
def positional? : Level → Option Parameter
  | batch => some .recordsFile
  | validate => some .file
  | completion => some .shell
  | _ => none

/-- The option of a name. -/
def optionNamed? (level : Level) (name : String) : Option Parameter :=
  level.options.find? fun p => p.name? == some name

/-- The option of a letter. -/
def optionLettered? (level : Level) (letter : Char) : Option Parameter :=
  level.options.find? fun p => p.letter? == some letter

end Level

end EvidenceTree.CommandLine
