import GrowthGrammar.Number.Numeral
import GrowthGrammar.Text.Identifier
import GrowthGrammar.Text.Quoted

/-!
# Arguments of the command line

`Command.ofArguments` reads the arguments of the program: a command, the path of a system and
options in any order.  Options may be shortened as long as they stay clear, short ones may share
an argument, and a value follows an option or stands behind `=`.  What is wrong with the arguments
is a `Usage` error.
-/

namespace GrowthGrammar.CommandLine

open GrowthGrammar.Number GrowthGrammar.Text

/-- What the program is asked to do.  A count or a variable may be given without its value. -/
inductive Command where
  | expand (system : String) (count : Option (Option Int))
    (bindings : List (Option (String × Float))) (output : Option String) (verbose : Bool)
  | validate (system : String) (bindings : List (Option (String × Float)))

/-- The options. -/
inductive Flag where
  | help
  | count
  | json
  | verbose
  | var
deriving Repr, DecidableEq

/-- The option in messages. -/
def Flag.text : Flag → String
  | help => "-h/--help"
  | count => "--count"
  | json => "--json"
  | verbose => "-v/--verbose"
  | var => "--var"

/-- The option has a value. -/
def Flag.hasValue : Flag → Bool
  | help | verbose => false
  | count | json | var => true

/-- Names of options, in the order in which messages list them. -/
abbrev FlagTable :=
  List (String × Flag)

/-- The options in front of a command. -/
def mainFlags : FlagTable :=
  [("-h", .help), ("--help", .help)]

/-- The options of `expand`. -/
def expandFlags : FlagTable :=
  mainFlags ++ [("--count", .count), ("--json", .json), ("-v", .verbose), ("--verbose", .verbose),
    ("--var", .var)]

/-- The options of `validate`. -/
def validateFlags : FlagTable :=
  mainFlags ++ [("--var", .var)]

/-- What is wrong with the arguments, or that they ask for help. -/
inductive UsageCause where
  | help
  | ambiguous (argument : String) (names : List String)
  | ignored (f : Flag) (value : String)
  | valueMissing (f : Flag)
  | notInteger (value : String)
  | notAssignment (value : String)
  | notNumber (value : String)
  | missing (name : String)
  | unknownCommand (name : String)
  | unrecognized (arguments : List String)
deriving Repr, DecidableEq

/-- A cause, and the part of the program that it concerns. -/
structure Usage where
  program : String
  cause : UsageCause
deriving Repr, DecidableEq

/-- The wording of a cause that concerns an argument. -/
def aboutArgument (name text : String) : String :=
  "argument " ++ name ++ ": " ++ text

/-- The wording of a cause. -/
def UsageCause.message : UsageCause → String
  | help => ""
  | ambiguous argument names =>
    "ambiguous option: " ++ argument ++ " could match " ++ ", ".intercalate names
  | ignored f value => aboutArgument f.text ("ignored explicit argument " ++ quote value)
  | valueMissing f => aboutArgument f.text "expected one argument"
  | notInteger value => aboutArgument Flag.count.text ("invalid int value: " ++ quote value)
  | notAssignment value => aboutArgument Flag.var.text ("expected NAME=VALUE, got " ++ quote value)
  | notNumber value => aboutArgument Flag.var.text (quote value ++ " is not a number")
  | missing name => "the following arguments are required: " ++ name
  | unknownCommand name =>
    aboutArgument "cmd"
      ("invalid choice: " ++ quote name ++ " (choose from 'expand', 'validate')")
  | unrecognized arguments => "unrecognized arguments: " ++ " ".intercalate arguments

/-- The wording of a usage error. -/
def Usage.message (u : Usage) : String :=
  u.program ++ ": error: " ++ u.cause.message

/-- The name of the program. -/
def programName : String :=
  "param_lsystem.py"

/-! ## Kinds of arguments -/

/-- What an argument is taken for. -/
inductive Reading where
  | plain
  /-- The first `--`, behind which there are no options. -/
  | separator
  | unknown
  /-- An option; a value may stand in its argument, behind `=` or right behind a short name. -/
  | option (f : Flag) (name : List Char) (attached : Option (List Char))

/-- Digits of any script, at least one. -/
def isDigits (cs : List Char) : Bool :=
  !cs.isEmpty && cs.all fun c => (digitValue? c).isSome

/-- The argument is a negative number and no option. -/
def isNegativeNumber (cs : List Char) : Bool :=
  let cs := if cs.getLast? = some '\n' then cs.dropLast else cs
  match cs with
  | '-' :: r =>
    match cutAt '.' r with
    | (a, none) => isDigits a
    | (a, some b) => (a.isEmpty || isDigits a) && isDigits b
  | _ => false

/-- The options that an argument can be short for. -/
def candidates (table : FlagTable) (cs : List Char) : List (String × Reading) :=
  match cs with
  | '-' :: '-' :: _ =>
    let (front, value) := cutAt '=' cs
    table.filterMap fun (n, f) =>
      if front.isPrefixOf n.toList then
        some (n, .option f n.toList value)
      else none
  | _ =>
    table.filterMap fun (n, f) =>
      if n.toList = cs.take 2 then some (n, .option f n.toList (some (cs.drop 2)))
      else none

/-- What an argument in front of `--` is taken for. -/
def readArgument (table : FlagTable) (argument : String) : Except UsageCause Reading :=
  let cs := argument.toList
  if cs.head? ≠ some '-' then .ok .plain
  else
    match table.lookup argument with
    | some f => .ok (.option f cs none)
    | none =>
      if cs.length = 1 then .ok .plain
      else
        let (front, value) := cutAt '=' cs
        match value, table.lookup (String.ofList front) with
        | some v, some f => .ok (.option f front (some v))
        | _, _ =>
          match candidates table cs with
          | [(_, r)] => .ok r
          | [] =>
            .ok (if isNegativeNumber cs || cs.contains ' ' then .plain else .unknown)
          | cands => .error (.ambiguous argument (cands.map Prod.fst))

/-- What arguments are taken for. -/
def readArguments (table : FlagTable) : List String → Except UsageCause (List (String × Reading))
  | [] => .ok []
  | a :: r =>
    if a = "--" then .ok ((a, .separator) :: r.map fun b => (b, .plain))
    else do
      let k ← readArgument table a
      let ks ← readArguments table r
      return (a, k) :: ks

/-- The options that share an argument: behind the name of one, each character names another. -/
def shared (table : FlagTable) (f : Flag) : List Char → Except UsageCause (List Flag)
  | [] => .ok [f]
  | c :: r =>
    match table.lookup (String.ofList ['-', c]) with
    | some g => (shared table g r).map (f :: ·)
    | none => .error (.ignored f (String.ofList (c :: r)))

/-- The options of an argument in which a text stands behind an option without a value.  Long names
share their argument with nothing. -/
def sharedBehind (table : FlagTable) (f : Flag) (name text : List Char) :
    Except UsageCause (List Flag) :=
  if text.isEmpty || "--".toList.isPrefixOf name then .error (.ignored f (String.ofList text))
  else shared table f text

/-! ## Values -/

/-- What the arguments of a command have given so far. -/
structure Settings where
  system : Option String
  count : Option (Option Int)
  bindings : List (Option (String × Float))
  output : Option String
  verbose : Bool
  /-- Arguments that belong to nothing. -/
  extras : List String

/-- Nothing given. -/
def Settings.start : Settings :=
  ⟨none, none, [], none, false, []⟩

/-- A variable as it is given: a name, `=` and a number. -/
def readAssignment (text : String) : Except UsageCause (String × Float) :=
  match cutAt '=' text.toList with
  | (_, none) => .error (.notAssignment text)
  | (name, some value) =>
    let name := trim name
    if isIdentifier name then
      match readDouble value with
      | some x => .ok (String.ofList name, x)
      | none => .error (.notNumber (String.ofList value))
    else .error (.notAssignment text)

/-- The settings with an option that has no value. -/
def Settings.setFlag (s : Settings) : Flag → Except UsageCause Settings
  | .help => .error .help
  | .verbose => .ok { s with verbose := true }
  | _ => .ok s

/-- The settings with options that have no values, in turn. -/
def Settings.setFlags (s : Settings) (fs : List Flag) : Except UsageCause Settings :=
  fs.foldlM Settings.setFlag s

/-- The settings with an option that has a value. -/
def Settings.setValue (s : Settings) (f : Flag) (value : String) : Except UsageCause Settings :=
  match f with
  | .count =>
    match readInteger value.toList with
    | some n => .ok { s with count := some (some n) }
    | none => .error (.notInteger value)
  | .json => .ok { s with output := some value }
  | .var => do
    let v ← readAssignment value
    return { s with bindings := s.bindings ++ [some v] }
  | _ => .ok s

/-- The settings with an option that is given without the value it should have. -/
def Settings.setBlank (s : Settings) : Flag → Settings
  | .count => { s with count := some none }
  | .json => { s with output := none }
  | .var => { s with bindings := s.bindings ++ [none] }
  | _ => s

/-- The settings with a value that stands in the argument of its option, where `--` is no value. -/
def Settings.setAttached (s : Settings) (f : Flag) (value : List Char) :
    Except UsageCause Settings :=
  if value = ['-', '-'] then .ok (s.setBlank f) else s.setValue f (String.ofList value)

/-- The settings with an argument that belongs to nothing. -/
def Settings.addExtra (s : Settings) (argument : String) : Settings :=
  { s with extras := s.extras ++ [argument] }

/-- The settings behind the arguments of a command.  The first argument that is no option is the
path of the system. -/
def settle (table : FlagTable) (s : Settings) :
    List (String × Reading) → Except UsageCause Settings
  | [] => .ok s
  | (a, .unknown) :: r => settle table (s.addExtra a) r
  | (a, .plain) :: r =>
    if s.system.isSome then settle table (s.addExtra a) r
    else
      match r with
      | (_, .separator) :: t => settle table { s with system := some a } t
      | r => settle table { s with system := some a } r
  | (a, .separator) :: r =>
    match r with
    | (b, .plain) :: t =>
      if s.system.isSome then settle table ((s.addExtra a).addExtra b) t
      else settle table { s with system := some b } t
    | r => settle table (s.addExtra a) r
  | (_, .option f name attached) :: r =>
    match attached with
    | some v =>
      if f.hasValue then do
        let s ← s.setAttached f v
        settle table s r
      else do
        let s ← s.setFlags (← sharedBehind table f name v)
        settle table s r
    | none =>
      if f.hasValue then
        match r with
        | (b, .plain) :: t => do
          let s ← s.setValue f b
          settle table s t
        | _ => .error (.valueMissing f)
      else do
        let s ← s.setFlag f
        settle table s r

/-- The settings that the arguments of a command give. -/
def readSettings (table : FlagTable) (arguments : List String) : Except UsageCause Settings := do
  let s ← settle table .start (← readArguments table arguments)
  if s.system.isNone then .error (.missing "system") else .ok s

/-! ## Commands -/

/-- A usage error of the part of the program with a name. -/
def concern {α : Type} (command : String) (r : Except UsageCause α) : Except Usage α :=
  r.mapError fun c => ⟨programName ++ command, c⟩

/-- The command of a name with its settings. -/
def readCommand (name : String) (arguments : List String) : Except Usage (Command × List String) :=
  if name = "expand" then do
    let s ← concern " expand" (readSettings expandFlags arguments)
    return (.expand (s.system.getD "") s.count s.bindings s.output s.verbose, s.extras)
  else if name = "validate" then do
    let s ← concern " validate" (readSettings validateFlags arguments)
    return (.validate (s.system.getD "") s.bindings, s.extras)
  else concern "" (.error (.unknownCommand name))

/-- The command behind options; those in front of it that belong to nothing are carried along. -/
def findCommand (extras : List String) : List String → Except Usage (Command × List String)
  | [] => concern "" (.error (.missing "cmd"))
  | a :: r =>
    if a = "--" then
      if r.isEmpty then concern "" (.error (.missing "cmd"))
      else concern "" (.error (.unknownCommand a))
    else
      match readArgument mainFlags a with
      | .error c => concern "" (.error c)
      | .ok .unknown => findCommand (extras ++ [a]) r
      | .ok (.option f name (some v)) =>
        match sharedBehind mainFlags f name v with
        | .error c => concern "" (.error c)
        | .ok _ => concern "" (.error .help)
      | .ok (.option _ _ none) => concern "" (.error .help)
      | .ok _ => do
        let (c, more) ← readCommand a r
        return (c, extras ++ more)

/-- The command that arguments ask for. -/
def Command.ofArguments (arguments : List String) : Except Usage Command := do
  let (c, extras) ← findCommand [] arguments
  if extras.isEmpty then return c else concern "" (.error (.unrecognized extras))

end GrowthGrammar.CommandLine
