import EvidenceTree.CommandLine.Grammar

/-!
# Reading command lines

The invocation that arguments spell, or why they spell none. Arguments are read from left to right,
and a command is read to its end before what was given in front of it is judged. A value is judged
when the next option or argument by position is accepted, so an unknown one goes before it.
-/

namespace EvidenceTree.CommandLine

/-- Why arguments spell no invocation. The first two are questions, which are answered. -/
inductive Rejection where
  | helpAsked
  | versionAsked
  | nothingGiven
  | missingCommand
  | unknownCommand
  | missingArgument
  | unknownArgument
  | repeatedArgument
  | invalidValue
  | unwantedValue
  deriving DecidableEq

/-! ## What is given -/

/-- Parameters with their values; marks have an empty one. -/
abbrev Given := List (Parameter × String)

namespace Given

/-- The values of a parameter, in the order they are given. -/
def values (given : Given) (p : Parameter) : List String :=
  (given.filter fun entry => entry.1 == p).map Prod.snd

/-- The value of a parameter. -/
def value? (given : Given) (p : Parameter) : Option String := (given.values p).head?

/-- The parameter is given. -/
def has (given : Given) (p : Parameter) : Bool := given.any fun entry => entry.1 == p

/-- What is given with a value more. -/
def add (given : Given) (p : Parameter) (value : String) : Except Rejection Given :=
  match p.form with
  | .asksHelp => .error .helpAsked
  | .asksVersion => .error .versionAsked
  | .counted | .repeated => .ok (given ++ [(p, value)])
  | .mark => if given.has p then .error .repeatedArgument else .ok (given ++ [(p, value)])
  | .once accepts =>
    if given.has p then .error .repeatedArgument
    else if accepts value then .ok (given ++ [(p, value)])
    else .error .invalidValue

/-- What the arguments say about matching. -/
def matching (given : Given) : MatchingChoice where
  ignoreCase := given.has .ignoreCase
  keyPolicy := (given.value? .keyPolicy).bind KeyPolicy.ofName?

/-- The command of a level for what is given to it. -/
def command (given : Given) : Level → Except Rejection (Option Command)
  | .program => .ok none
  | .settings => .error (if given.isEmpty then .nothingGiven else .missingCommand)
  | .resolve =>
    .ok (some (.resolve
      { dataFile := given.value? .dataFile
        pairs := given.values .pair
        recordFile := given.value? .recordFile
        trace := given.has .trace
        json := given.has .json
        matching := given.matching }))
  | .batch =>
    match given.value? .recordsFile with
    | none => .error .missingArgument
    | some recordsFile =>
      .ok (some (.batch
        { dataFile := given.value? .dataFile
          recordsFile
          json := given.has .json
          matching := given.matching }))
  | .info => .ok (some (.info (given.value? .dataFile)))
  | .outline => .ok (some (.outline (given.value? .dataFile)))
  | .validate =>
    match given.value? .file with
    | none => .error .missingArgument
    | some file => .ok (some (.validate file))
  | .settingsText => .ok (some (.settings .effective))
  | .settingsTemplate => .ok (some (.settings .template))
  | .settingsLocation => .ok (some (.settings .location))
  | .completion =>
    match (given.value? .shell).bind Shell.ofName? with
    | none => .error .missingArgument
    | some shell => .ok (some (.completion shell))

end Given

/-! ## A level as it is read -/

/-- What has been read of a level: what is given, a parameter whose value is missing or has not been
judged, and whether the argument by position is there. -/
structure Reading where
  given : Given := []
  pending : Option (Parameter × Option String) := none
  positionalRead : Bool := false

namespace Reading

/-- The value of an option is to follow. -/
def awaitsValue (reading : Reading) : Bool :=
  match reading.pending with
  | some (_, none) => true
  | _ => false

/-- The pending value judged. -/
def settled (reading : Reading) : Except Rejection Reading :=
  match reading.pending with
  | none => .ok reading
  | some (_, none) => .error .invalidValue
  | some (p, some value) =>
    (reading.given.add p value).map fun given => { reading with given, pending := none }

/-- An option, with a value attached to it or not. -/
def option (reading : Reading) (p : Parameter) (attached : Option String) :
    Except Rejection Reading :=
  if p.takesValue then do
    let reading ← reading.settled
    match attached with
    | none => .ok { reading with pending := some (p, none) }
    | some value =>
      let given ← reading.given.add p value
      .ok { reading with given }
  else
    match attached with
    | some _ => .error .unwantedValue
    | none => do
      let reading ← reading.settled
      let given ← reading.given.add p ""
      .ok { reading with given }

/-- An option by its name, behind the two dashes. -/
def named (reading : Reading) (level : Level) (written : List Char) : Except Rejection Reading :=
  let name := written.takeWhile (· ≠ '=')
  match level.optionNamed? (String.ofList name) with
  | none => .error .unknownArgument
  | some p =>
    match written.dropWhile (· ≠ '=') with
    | [] => reading.option p none
    | _ :: value => reading.option p (some (String.ofList value))

/-- Options by their letters, behind the dash. A letter that takes a value takes what follows it,
with an equals sign between them or not. -/
def lettered (level : Level) : Reading → List Char → Except Rejection Reading
  | reading, [] => .ok reading
  | reading, letter :: rest =>
    match level.optionLettered? letter with
    | none => .error .unknownArgument
    | some p =>
      if p.takesValue then
        match rest with
        | [] => reading.option p none
        | '=' :: value => reading.option p (some (String.ofList value))
        | value => reading.option p (some (String.ofList value))
      else do
        let reading ← reading.option p none
        lettered level reading rest

/-- An argument by position; `only` says that no option can stand here any more. -/
def argument (reading : Reading) (level : Level) (only : Bool) (written : String) :
    Except Rejection Reading :=
  match level.positional?, reading.positionalRead with
  | some p, false => do
    let reading ← reading.settled
    .ok { reading with pending := some (p, some written), positionalRead := true }
  | _, _ =>
    if level.commands.isEmpty || (only && level.isCommand written) then .error .unknownArgument
    else .error .unknownCommand

/-- The invocation that a level spells, with that of its command if one is read. -/
def finished (reading : Reading) (level : Level) (inner : Option Invocation) :
    Except Rejection Invocation := do
  let reading ← reading.settled
  let settingsFile := reading.given.value? .settingsFile
  match inner with
  | some invocation =>
    .ok { invocation with settingsFile := invocation.settingsFile.or settingsFile }
  | none =>
    let command ← reading.given.command level
    .ok { settingsFile, command }

end Reading

/-! ## Arguments -/

/-- What an argument is. -/
inductive Word where
  | command (level : Level)
  | help
  | endOfOptions
  | named (written : List Char)
  | lettered (letters : List Char)
  | plain

/-- What an argument is at a level where options can stand. A word that has to be a value is no
command. -/
def wordOf (level : Level) (awaitsValue : Bool) (written : String) : Word :=
  match if awaitsValue then none else level.command? written with
  | some inner => .command inner
  | none =>
    if !awaitsValue && level.isCommand written then .help
    else
      match written.toList with
      | ['-', '-'] => .endOfOptions
      | '-' :: '-' :: rest => .named rest
      | '-' :: c :: rest => .lettered (c :: rest)
      | _ => .plain

/-- What a question for help about commands comes to. -/
def helpFor (level : Level) : List String → Rejection
  | [] => .helpAsked
  | name :: rest =>
    match level.command? name with
    | some inner => helpFor inner rest
    | none => if level.isCommand name ∧ rest = [] then .helpAsked else .unknownCommand

/-- The invocation that arguments spell at a level, behind what has been read of it; `only` says
that no option can stand any more. -/
def readLevel (level : Level) (reading : Reading) (only : Bool) :
    List String → Except Rejection Invocation
  | [] => reading.finished level none
  | written :: rest =>
    match if only then .plain else wordOf level reading.awaitsValue written with
    | .command inner => do
      let invocation ← readLevel inner {} false rest
      reading.finished level (some invocation)
    | .help => .error (helpFor level rest)
    | .endOfOptions => readLevel level reading true rest
    | .named name => do
      let reading ← reading.named level name
      readLevel level reading false rest
    | .lettered letters => do
      let reading ← Reading.lettered level reading letters
      readLevel level reading false rest
    | .plain =>
      match reading.pending, only with
      | some (p, none), false =>
        readLevel level { reading with pending := some (p, some written) } false rest
      | _, _ => do
        let reading ← reading.argument level only written
        readLevel level reading only rest

/-- The invocation that arguments spell. -/
def Invocation.ofArguments (arguments : List String) : Except Rejection Invocation :=
  readLevel .program {} false arguments

end EvidenceTree.CommandLine
