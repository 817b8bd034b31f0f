import GrowthGrammar.CommandLine.Arguments
import GrowthGrammar.Json.Writer
import GrowthGrammar.Result
import GrowthGrammar.Source

/-!
# Outcomes of commands

`Command.run` is what a command does, given the files: what it prints, what it writes and how it
ends.  `expand` runs a system and writes the word it comes to; `validate` runs it until its word is
long enough to show that the rules work.  `Outcome.written` adds what becomes of the file that is
written; `Command.perform` is both on any files, and `Command.runIn` in a file tree.
-/

namespace GrowthGrammar.CommandLine

open GrowthGrammar.Number

/-- How a command ends. -/
inductive Ending where
  | exit (code : Nat)
  /-- An error that the command does not handle. -/
  | raised (e : Error)

/-- What a command does. -/
structure Outcome where
  stdout : String
  stderr : String
  ending : Ending
  /-- A text to be written to the file at a path. -/
  output : Option (String × String)

/-- The line that tells the user about an error, unless it is a stray one. -/
def errorLine? : Error → Option String
  | .grammar e => some ("Grammar error (" ++ e.kind.name ++ "): " ++ e.message)
  | .expression e => some ("Expression error: " ++ e.message)
  | .bracket e => some ("Expression error: " ++ e.message)
  | .configuration e => some ("Config error: " ++ e.message)
  | .file e => some ("File error: " ++ e.message)
  | .stray _ => none

namespace Outcome

/-- The outcome of an error behind what has been printed. -/
def failed (stdout stderr : String) (e : Error) : Outcome :=
  match errorLine? e with
  | some line => ⟨stdout, stderr ++ line ++ "\n", .exit 2, none⟩
  | none => ⟨stdout, stderr, .raised e, none⟩

/-- The outcome of a success. -/
def done (stdout stderr : String) : Outcome :=
  ⟨stdout, stderr, .exit 0, none⟩

/-- The outcome with a text shown behind what has been printed. -/
def shown (o : Outcome) (text : String) : Option Screen → Outcome
  | none => o
  | some .output => { o with stdout := o.stdout ++ text }
  | some .errors => { o with stderr := o.stderr ++ text }

/-- The outcome when its text has been written, and shown where the file is a device that shows it,
or when the text could not be written. -/
def written (o : Outcome) (text : String) : Except Error (Option Screen) → Outcome
  | .ok screen => o.shown text screen
  | .error e => .failed o.stdout o.stderr e

end Outcome

/-- The line for the word of a generation. -/
def generationLine (generation : Nat) (symbols : List Symbol) : String :=
  "generation " ++ toString generation ++ ": " ++ toString symbols.length ++ " symbols\n"

/-- The lines for the words of a run. -/
def generationLines (words : List (List Symbol)) : String :=
  String.join (words.mapIdx fun i w => generationLine (i + 1) w)

/-- Runs a system; what is printed about its generations if that is asked for, the system it comes
to and the error it ends with. -/
def runVerbosely (verbose : Bool) (n : Nat) (s : Growth) : String × Growth × Option Error :=
  if verbose then
    let r := s.trace n
    (generationLines r.words, r.final, r.failure)
  else ("", s.advanceBy n)

/-- The text of the data file for a result. -/
def resultText (name : String) (s : Growth) : String :=
  (resultJson name s).indented ++ "\n"

/-- What `expand` does with a system that has been loaded. -/
def expand (source : Source) (count : Option (Option Int)) (output : Option String)
    (verbose : Bool) : Outcome :=
  match count.getD (some source.count) with
  | none => .failed "" "" (.stray .blankCount)
  | some n =>
    if n < 0 then .failed "" "" (.configuration .negativeCount)
    else
      match runVerbosely verbose n.toNat source.growth with
      | (lines, _, some e) => .failed "" lines e
      | (lines, s, none) =>
        match output with
        | some path =>
          if path = "" then .done (s.text ++ "\n") lines
          else ⟨"", lines, .exit 0, some (path, resultText source.name s)⟩
        | none => .done (s.text ++ "\n") lines

/-- The length beyond which `validate` does not run a system further. -/
def symbolLimit : Nat :=
  10000

/-- The system after a number of generations, or after the first whose word is longer than the
limit. -/
def advanceWithin (limit : Nat) : Nat → Growth → Growth × Option Error
  | 0, s => (s, none)
  | n + 1, s =>
    match s.step with
    | .error e => (s, some e)
    | .ok t => if limit < t.symbols.length then (t, none) else advanceWithin limit n t

/-- What `validate` prints before it runs a system. -/
def summary (source : Source) : String :=
  "name: " ++ source.name ++ "\n" ++
    "axiom: " ++ source.growth.text ++ "\n" ++
    "rules: " ++ toString source.growth.rules.length ++ "\n" ++
    "count: " ++ toString source.count ++ "\n"

/-- What `validate` prints about the system it comes to. -/
def conclusion (count : Nat) (s : Growth) : String :=
  "symbols: " ++ toString s.symbols.length ++ " (generation " ++ toString s.generation ++ ")\n" ++
    if s.generation < count then
      "warning: expansion exceeds " ++ toString symbolLimit ++
        " symbols; stopped after generation " ++ toString s.generation ++ " of " ++
        toString count ++ "\n"
    else ""

/-- What `validate` does with a system that has been loaded. -/
def validate (source : Source) : Outcome :=
  match advanceWithin symbolLimit source.count source.growth with
  | (_, some e) => .failed (summary source) "" e
  | (s, none) => .done (summary source ++ conclusion source.count s) ""

/-- Variables as they are given on the command line; each must have its value. -/
def givenVariables (bindings : List (Option (String × Float))) :
    Except Error (List (String × Given)) :=
  match bindings.findIdx? Option.isNone with
  | some i => .error (.stray (.blankVariable i))
  | none => .ok (bindings.filterMap fun v => v.map fun (n, x) => (n, .double x))

/-- The source at a path, under variables of the command line. -/
def loadGiven (read : String → Except Error Bytes) (path : String)
    (bindings : List (Option (String × Float))) : Except Error Source := do
  Source.load read path (← givenVariables bindings)

/-- The path of the system that a command names. -/
def Command.path : Command → String
  | .expand system .. => system
  | .validate system _ => system

/-- What a command does, apart from writing its file. -/
def Command.run (read : String → Except Error Bytes) : Command → Outcome
  | .expand system count bindings output verbose =>
    match loadGiven read system bindings with
    | .error e => .failed "" "" e
    | .ok source => CommandLine.expand source count output verbose
  | .validate system bindings =>
    match loadGiven read system bindings with
    | .error e => .failed "" "" e
    | .ok source => CommandLine.validate source

/-- What a command comes to where files are read and written by actions. -/
def Command.perform {m : Type → Type} [Monad m] (read : String → m (Except Error Bytes))
    (write : String → String → m (Except Error (Option Screen))) (c : Command) : m Outcome := do
  let content ← read c.path
  let o := c.run fun _ => content
  match o.output with
  | none => return o
  | some (path, text) => return o.written text (← write path text)

/-- The outcome of a command in a file tree, and the tree it leaves.  A file that cannot be written
is an error of the command; folders that were made for it stay. -/
def Command.runIn (t : FileTree) (c : Command) : Outcome × FileTree :=
  let o := c.run t.read
  match o.output with
  | none => (o, t)
  | some (path, text) =>
    let (u, result) := t.write path text.toUTF8.toList
    (o.written text result, u)

end GrowthGrammar.CommandLine
