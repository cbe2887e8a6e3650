/-!
# Argument grammars

A level of a command line has options, positional arguments and subcommands, and below every
subcommand there is another level. Arguments are taken one at a time from left to right, and the
first one that does not fit is reported. What an argument gives is put aside until the next one
comes, because an option may still be waiting for its value; only then is it looked at.
-/

namespace PageSketch.Command

/-! ## Grammars -/

/-- What a value may be: a path is never empty. -/
inductive ValueKind where
  | text
  | path
deriving DecidableEq, Repr

/-- An option with its long name, its letter if it has one, and the kind of its value; a switch
has no value. -/
structure OptionSpec where
  name : String
  letter : Option Char
  value : Option ValueKind
deriving DecidableEq, Repr

/-- A positional argument. All of them are required. -/
structure PositionalSpec where
  name : String
  kind : ValueKind
deriving DecidableEq, Repr

/-- A level of a command line. -/
inductive Level where
  | mk (options : List OptionSpec) (positionals : List PositionalSpec)
      (subcommands : List (String × Level)) (hasVersion : Bool)

namespace Level

/-- The options of a level. -/
def options : Level → List OptionSpec
  | mk options _ _ _ => options

/-- The positional arguments of a level. -/
def positionals : Level → List PositionalSpec
  | mk _ positionals _ _ => positionals

/-- The subcommands of a level. -/
def subcommands : Level → List (String × Level)
  | mk _ _ subcommands _ => subcommands

/-- Whether a level answers to the option that asks for the version. -/
def hasVersion : Level → Bool
  | mk _ _ _ hasVersion => hasVersion

/-- The level below a subcommand. -/
def subcommand? (level : Level) (name : String) : Option Level := level.subcommands.lookup name

/-- The name of the subcommand that every level with subcommands has in addition. -/
def helpName : String := "help"

/-- Whether a name is that of the subcommand for help. -/
def isHelpName (level : Level) (name : String) : Bool :=
  !level.subcommands.isEmpty && name == helpName

/-- Whether a name is that of a subcommand. -/
def hasName (level : Level) (name : String) : Bool :=
  (level.subcommand? name).isSome || level.isHelpName name

end Level

/-! ## Refusals -/

/-- Why a command line is not carried out. -/
inductive UsageError where
  | unknownArgument
  | missingArgument
  | unknownSubcommand
  | missingSubcommand
  /-- A value is missing or empty. -/
  | badValue
  /-- A switch was given a value. -/
  | surplusValue
  | repeatedOption
  | helpWanted
  | versionWanted
  /-- Nothing was asked for, so the help is shown. -/
  | helpInstead
deriving DecidableEq, Repr

/-- The exit code of a refusal: asking for help or for the version is not an error. -/
def UsageError.exitCode : UsageError → Nat
  | helpWanted => 0
  | versionWanted => 0
  | _ => 2

/-! ## Matches -/

/-- What a command line gives: the subcommands from the outside in, and the values of the levels,
the innermost level first. A switch that was given has an empty value. -/
structure Matches where
  subcommands : List String
  levels : List (List (String × String))
deriving DecidableEq, Repr

/-- The value of a name: the innermost level decides. -/
def Matches.value? (matched : Matches) (name : String) : Option String :=
  matched.levels.findSome? fun level => level.lookup name

/-- Whether a switch was given. -/
def Matches.has (matched : Matches) (name : String) : Bool := (matched.value? name).isSome

/-! ## One level -/

/-- A value that was put aside; none if an option still waits for it. -/
structure Aside where
  name : String
  kind : ValueKind
  value : Option String
deriving DecidableEq, Repr

/-- How far the arguments of a level have been read. -/
structure Progress where
  aside : Option Aside
  values : List (String × String)
  positionals : List PositionalSpec
  /-- Whether only positional arguments can follow. -/
  onlyPositionals : Bool
deriving DecidableEq, Repr

namespace Progress

/-- The progress before any argument. -/
def start (level : Level) : Progress := ⟨none, [], level.positionals, false⟩

/-- Whether an option waits for its value. -/
def isWaiting (progress : Progress) : Bool :=
  progress.aside.any fun aside => aside.value.isNone

/-- Stores a value. -/
def store (progress : Progress) (name : String) (kind : ValueKind) (value : String) :
    Except UsageError Progress :=
  if (progress.values.lookup name).isSome then .error .repeatedOption
  else if kind = .path ∧ value = "" then .error .badValue
  else .ok { progress with values := (name, value) :: progress.values }

/-- Stores the value that was put aside. -/
def settle (progress : Progress) : Except UsageError Progress :=
  match progress.aside with
  | none => .ok progress
  | some ⟨_, _, none⟩ => .error .badValue
  | some ⟨name, kind, some value⟩ => { progress with aside := none }.store name kind value

/-- Puts a value aside. -/
def put (progress : Progress) (aside : Aside) : Except UsageError Progress :=
  match progress.settle with
  | .ok settled => .ok { settled with aside := some aside }
  | .error e => .error e

/-- Stores a value at once. -/
def take (progress : Progress) (name : String) (kind : ValueKind) (value : String) :
    Except UsageError Progress :=
  match progress.settle with
  | .ok settled => settled.store name kind value
  | .error e => .error e

/-- Gives the waiting option its value. -/
def supply (progress : Progress) (value : String) : Progress :=
  { progress with aside := progress.aside.map fun aside => { aside with value := some value } }

/-- Answers a question for the help or the version, unless what was put aside is wrong. -/
def answer (progress : Progress) (wanted : UsageError) : Except UsageError Progress :=
  match progress.settle with
  | .ok _ => .error wanted
  | .error e => .error e

end Progress

/-! ## Arguments -/

/-- The name and the value of an argument that begins with two dashes. -/
def splitLong? (arg : String) : Option (String × Option String) :=
  match arg.toList with
  | '-' :: '-' :: rest =>
    let name := String.ofList (rest.takeWhile (· ≠ '='))
    match rest.dropWhile (· ≠ '=') with
    | '=' :: value => some (name, some (String.ofList value))
    | _ => some (name, none)
  | _ => none

/-- The letters of an argument that begins with one dash. -/
def splitShort? (arg : String) : Option (List Char) :=
  match arg.toList with
  | '-' :: c :: rest => if c = '-' then none else some (c :: rest)
  | _ => none

/-- Whether an argument asks for the help or for the version by its long name. -/
def builtIn? (level : Level) (name : String) : Option UsageError :=
  if name = "help" then some .helpWanted
  else if name = "version" ∧ level.hasVersion = true then some .versionWanted
  else none

/-- Takes an option with two dashes. -/
def takeLong (level : Level) (progress : Progress) (name : String) (value : Option String) :
    Except UsageError Progress :=
  match level.options.find? fun option => option.name == name with
  | some ⟨_, _, some kind⟩ =>
    match value with
    | some value => progress.take name kind value
    | none => progress.put ⟨name, kind, none⟩
  | some ⟨_, _, none⟩ =>
    match value with
    | some _ => .error .surplusValue
    | none => progress.take name .text ""
  | none =>
    match builtIn? level name, value with
    | some wanted, none => progress.answer wanted
    | some _, some _ => .error .surplusValue
    | none, _ => .error .unknownArgument

/-- Takes the letters behind one dash. A letter with a value takes the rest of the argument for
it, unless there is none. -/
def takeShort (level : Level) (progress : Progress) : List Char → Except UsageError Progress
  | [] => .ok progress
  | c :: rest =>
    match level.options.find? fun option => option.letter == some c with
    | some ⟨name, _, some kind⟩ =>
      match rest with
      | [] => progress.put ⟨name, kind, none⟩
      | '=' :: value => progress.take name kind (String.ofList value)
      | value => progress.take name kind (String.ofList value)
    | some ⟨name, _, none⟩ =>
      match progress.take name .text "" with
      | .ok progress' => takeShort level progress' rest
      | .error e => .error e
    | none =>
      if c = 'h' then progress.answer .helpWanted
      else if c = 'V' ∧ level.hasVersion = true then progress.answer .versionWanted
      else .error .unknownArgument

/-- Takes an argument without dashes, or behind a bare pair of dashes. -/
def takePositional (level : Level) (progress : Progress) (arg : String) :
    Except UsageError Progress :=
  match progress.positionals with
  | spec :: rest =>
    match progress.put ⟨spec.name, spec.kind, some arg⟩ with
    | .ok progress' => .ok { progress' with positionals := rest }
    | .error e => .error e
  | [] =>
    if progress.onlyPositionals ∧ level.hasName arg then .error .unknownArgument
    else if level.subcommands.isEmpty ∨ !level.positionals.isEmpty then .error .unknownArgument
    else .error .unknownSubcommand

/-- Takes an argument that is not a subcommand. -/
def takeArgument (level : Level) (progress : Progress) (arg : String) :
    Except UsageError Progress :=
  if progress.onlyPositionals then takePositional level progress arg
  else if arg = "--" then .ok { progress with onlyPositionals := true }
  else
    match splitLong? arg, splitShort? arg with
    | some (name, value), _ => takeLong level progress name value
    | none, some letters => takeShort level progress letters
    | none, none =>
      if progress.isWaiting then .ok (progress.supply arg)
      else takePositional level progress arg

/-! ## Whole command lines -/

/-- The answer to a question for the help about a subcommand. -/
def helpAbout (level : Level) : List String → UsageError
  | [] => .helpWanted
  | name :: rest =>
    match level.subcommand? name with
    | some below => helpAbout below rest
    | none =>
      if level.isHelpName name ∧ rest.isEmpty then .helpWanted
      else .unknownSubcommand

/-- The values of a level at the end of its arguments. -/
def close (level : Level) (progress : Progress) (isBelow : Bool) :
    Except UsageError (List (String × String)) :=
  match progress.settle with
  | .error e => .error e
  | .ok settled =>
    if !isBelow && !level.subcommands.isEmpty then
      .error (if settled.values.isEmpty then .helpInstead else .missingSubcommand)
    else if !settled.positionals.isEmpty then .error .missingArgument
    else .ok settled.values

/-- The subcommand that an argument names: not while an option waits for its value, and not behind
a bare pair of dashes. -/
def subcommandAt? (level : Level) (progress : Progress) (arg : String) : Option Level :=
  if progress.isWaiting || progress.onlyPositionals then none else level.subcommand? arg

/-- Whether an argument is the subcommand for help. -/
def isHelp (level : Level) (progress : Progress) (arg : String) : Bool :=
  !progress.isWaiting && !progress.onlyPositionals && level.isHelpName arg

/-- Reads the arguments from some progress on. -/
def readFrom (level : Level) (progress : Progress) : List String → Except UsageError Matches
  | [] =>
    match close level progress false with
    | .ok values => .ok ⟨[], [values]⟩
    | .error e => .error e
  | arg :: rest =>
    match subcommandAt? level progress arg with
    | some below =>
      match readFrom below (.start below) rest with
      | .error e => .error e
      | .ok matched =>
        match close level progress true with
        | .ok values => .ok ⟨arg :: matched.subcommands, matched.levels ++ [values]⟩
        | .error e => .error e
    | none =>
      if isHelp level progress arg then .error (helpAbout level rest)
      else
        match takeArgument level progress arg with
        | .ok progress' => readFrom level progress' rest
        | .error e => .error e

/-- Reads a command line. -/
def Level.read (level : Level) (args : List String) : Except UsageError Matches :=
  readFrom level (.start level) args

end PageSketch.Command
