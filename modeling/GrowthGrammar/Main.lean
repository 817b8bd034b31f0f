import GrowthGrammar.CommandLine.Outcome

/-!
# The program

Reads the arguments, runs the command on the files of the disk, writes its file, and prints what the
outcome says.  An error of the disk becomes an error of the command in the way that an error of a
file tree does.
-/

namespace GrowthGrammar.CommandLine

/-! ## The disk -/

/-- The number of an error of the system, which may come with its sign changed. -/
def errorNumber (code : UInt32) : Nat :=
  if code < 0x80000000 then code.toNat else (0 - code).toNat

/-- The number and the wording of an error of the system. -/
def systemError : IO.Error → Nat × String
  | .noFileOrDirectory _ code reason | .interrupted _ code reason => (errorNumber code, reason)
  | .alreadyExists _ code reason | .invalidArgument _ code reason
  | .permissionDenied _ code reason | .resourceExhausted _ code reason
  | .inappropriateType _ code reason | .noSuchThing _ code reason => (errorNumber code, reason)
  | .otherError code reason | .resourceBusy code reason | .resourceVanished code reason
  | .unsupportedOperation code reason | .hardwareFault code reason
  | .unsatisfiedConstraints code reason | .illegalOperation code reason
  | .protocolError code reason | .timeExpired code reason => (errorNumber code, reason)
  | .unexpectedEof => (5, "Input/output error")
  | .userError reason => (5, reason)

/-- The error of a file at a path for an error of the system. -/
def fileError (path : String) (e : IO.Error) : FileError :=
  match systemError e with
  | (2, _) => .missing path
  | (17, _) => .occupied path
  | (20, _) => .notDirectory path
  | (21, _) => .isDirectory path
  | (36, _) => .tooLong path
  | (number, reason) => .other number reason path

/-- What an action on the file at a path comes to. -/
def onFile {α : Type} (path : String) (action : IO α) : IO (Except Error α) := do
  try
    return .ok (← action)
  catch e =>
    return .error (.file (fileError path e))

/-- The bytes of a file of the disk. -/
def readDisk (path : String) : IO (Except Error Bytes) := do
  if holdsNull path then return .error (.stray .nullInPath)
  onFile path do return (← IO.FS.readBinFile path).toList

/-- Makes the folders of the disk on the way to a folder where they are missing. -/
def makeFoldersOnDisk (root : String) (done : List String) :
    List String → IO (Except Error Unit)
  | [] => return .ok ()
  | n :: r => do
    let names := done ++ [n]
    let folder := FileTree.pathText root names
    if holdsNull n then return .error (.stray .nullInPath)
    match ← onFile folder (IO.FS.createDir folder) with
    | .error (.file (.occupied path)) =>
      -- A file in the way is told of by the first folder below it.
      if !r.isEmpty || (← (← IO.FS.realPath folder).isDir) then makeFoldersOnDisk root names r
      else return .error (.file (.occupied path))
    | .error e => return .error e
    | .ok _ => makeFoldersOnDisk root names r

/-- Writes a text to a file of the disk, in folders that are made where they are missing.  A device
of the disk shows by itself what is written to it. -/
def writeDisk (path text : String) : IO (Except Error (Option Screen)) := do
  let here : FileTree := ⟨[], [], pathNames (← IO.FS.realPath ".").toString⟩
  match ← makeFoldersOnDisk (rootText path) [] (here.namesOf path).dropLast with
  | .error e => return .error e
  | .ok _ =>
    if holdsNull path then return .error (.stray .nullInPath)
    onFile path do
      IO.FS.writeFile path text
      return none

/-! ## Commands -/

/-- Prints an outcome; the code with which the program ends. -/
def Outcome.print (o : Outcome) : IO UInt32 := do
  (← IO.getStdout).putStr o.stdout
  (← IO.getStderr).putStr o.stderr
  match o.ending with
  | .exit code => return .ofNat code
  | .raised e =>
    (← IO.getStderr).putStrLn e.message
    return 1

/-- Runs the program on its arguments. -/
def runProgram (arguments : List String) : IO UInt32 := do
  match Command.ofArguments arguments with
  | .error u =>
    (← IO.getStderr).putStrLn u.message
    return if u.cause = .help then 0 else 2
  | .ok c => (← c.perform readDisk writeDisk).print

end GrowthGrammar.CommandLine

/-- The entry of the program. -/
def main (arguments : List String) : IO UInt32 :=
  GrowthGrammar.CommandLine.runProgram arguments
