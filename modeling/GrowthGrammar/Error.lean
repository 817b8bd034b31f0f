import GrowthGrammar.Error.Grammar
import GrowthGrammar.Json.Reader
import GrowthGrammar.Text.Utf8

/-!
# Errors

An `Error` is anything that can keep the library from an answer.  Most errors are of a kind that a
user is told about; those that are `stray` belong to no such kind, and nothing that reads or runs a
system handles them.
-/

namespace GrowthGrammar

open GrowthGrammar.Text

/-- Why a bracket is not closed. -/
inductive BracketError where
  | noBracket (opening : String) (index : Int) (text : String)
  | unclosed (closing opening : String) (index : Int) (text : String)
deriving Repr, DecidableEq

/-- The wording of an error. -/
def BracketError.message : BracketError → String
  | noBracket opening index text =>
    "No '" ++ opening ++ "' at index " ++ toString index ++ " of " ++ quote text
  | unclosed closing opening index text =>
    "Missing '" ++ closing ++ "' for '" ++ opening ++ "' at index " ++ toString index ++ " of " ++
      quote text

/-- Why data are no configuration. -/
inductive ConfigurationError where
  /-- A part of the data is of another kind than it must be. -/
  | kind (path expected : String)
  | emptyAxiom
  | negativeCount
  | badKey (key : String)
  | notJson (path : String) (f : Json.Fault) (position line column : Nat)
deriving Repr, DecidableEq

/-- The wording of an error. -/
def ConfigurationError.message : ConfigurationError → String
  | kind path expected => path ++ " must be " ++ expected
  | emptyAxiom => "axiom must be non-empty"
  | negativeCount => "count must be >= 0"
  | badKey key => "variables key '" ++ key ++ "' must be an identifier"
  | notJson path f position line column =>
    "Invalid JSON in " ++ path ++ ": " ++ f.message ++ ": line " ++ toString line ++ " column " ++
      toString column ++ " (char " ++ toString position ++ ")"

/-- Why a file cannot be read or written. -/
inductive FileError where
  | missing (path : String)
  | isDirectory (path : String)
  | notDirectory (path : String)
  | occupied (path : String)
  | tooLong (path : String)
  /-- Any other error of the system, by its number. -/
  | other (number : Nat) (reason path : String)
deriving Repr, DecidableEq

/-- The wording of an error. -/
def FileError.message : FileError → String
  | missing path => "[Errno 2] No such file or directory: " ++ quote path
  | isDirectory path => "[Errno 21] Is a directory: " ++ quote path
  | notDirectory path => "[Errno 20] Not a directory: " ++ quote path
  | occupied path => "[Errno 17] File exists: " ++ quote path
  | tooLong path => "[Errno 36] File name too long: " ++ quote path
  | other number reason path =>
    "[Errno " ++ toString number ++ "] " ++ reason ++ ": " ++ quote path

/-- Errors that belong to no kind that a user is told about. -/
inductive Stray where
  | negativeCount
  | nullCharacter
  | reservedName (name : String)
  | nullInPath
  /-- An integer with more digits than are written. -/
  | unwrittenInteger
  /-- An integer with more digits than are read. -/
  | unreadInteger (digits : Nat)
  | integerTooLarge
  | undecodable (e : Utf8Error)
  /-- A data file holds a surrogate without its pair. -/
  | unpairedSurrogate (unit : Nat)
  /-- A count is given without its value. -/
  | blankCount
  /-- The variable at an index is given without its value. -/
  | blankVariable (index : Nat)
deriving Repr, DecidableEq

/-- The wording of an error. -/
def Stray.message : Stray → String
  | negativeCount => "count must be >= 0"
  | nullCharacter => "source code string cannot contain null bytes"
  | reservedName name => "identifier field can't represent '" ++ name ++ "' constant"
  | nullInPath => "embedded null byte"
  | unwrittenInteger =>
    "Exceeds the limit (4300 digits) for integer string conversion; " ++
      "use sys.set_int_max_str_digits() to increase the limit"
  | unreadInteger digits =>
    "Exceeds the limit (4300 digits) for integer string conversion: value has " ++
      toString digits ++ " digits; use sys.set_int_max_str_digits() to increase the limit"
  | integerTooLarge => Fault.integerTooLarge.message
  | undecodable e => e.message
  | unpairedSurrogate unit =>
    "surrogate without its pair: '\\u" ++ String.ofList (hexDigits 4 unit) ++ "'"
  | blankCount => "'<' not supported between instances of 'list' and 'int'"
  | blankVariable index =>
    "dictionary update sequence element #" ++ toString index ++ " has length 0; 2 is required"

/-- Anything that can keep the library from an answer. -/
inductive Error where
  | expression (e : Expression.Error)
  | bracket (e : BracketError)
  | grammar (e : GrammarError)
  | configuration (e : ConfigurationError)
  | file (e : FileError)
  | stray (e : Stray)
deriving Repr, DecidableEq

/-- The wording of an error. -/
def Error.message : Error → String
  | expression e => e.message
  | bracket e => e.message
  | grammar e => e.message
  | configuration e => e.message
  | file e => e.message
  | stray e => e.message

end GrowthGrammar
