import GrowthGrammar.Error
import GrowthGrammar.Text.Split

/-!
# File trees

A `FileTree` holds the files of a disk, each under the names of the folders that lead to it from
the root, and the folder in which a program works.  `FileTree.read` and `FileTree.write` take paths
as they are written: from the root or from the working folder, with `.` and `..`, with repeated
slashes, and with a slash at the end for what has to be a folder.  A file may be a device, which
keeps nothing of what is written to it but may show it.
-/

namespace GrowthGrammar

open GrowthGrammar.Text

/-- The content of a file. -/
abbrev Bytes :=
  List UInt8

/-- Where a program shows text. -/
inductive Screen where
  | output
  | errors
deriving Repr, DecidableEq

/-- What stands under a name in a folder and is no folder. -/
inductive File where
  /-- Bytes that are kept. -/
  | regular (content : Bytes)
  /-- Bytes that can be read, and where that is shown which is written. -/
  | device (content : Bytes) (screen : Option Screen)
deriving Repr, DecidableEq

/-- The bytes that are read from a file. -/
def File.content : File → Bytes
  | regular content => content
  | device content _ => content

/-- Files under the names that lead to them from the root, folders without files, and the folder
from which paths lead that do not begin at the root. -/
structure FileTree where
  files : List (List String × File)
  folders : List (List String)
  workplace : List String

/-- The names in a path; empty ones and `.` lead nowhere. -/
def pathNames (path : String) : List String :=
  ((splitAt '/' path.toList).map String.ofList).filter fun n => n != "" && n != "."

/-- The path can only be one of a folder. -/
def endsInFolder (path : String) : Bool :=
  match (splitAt '/' path.toList).getLast? with
  | some [] | some ['.'] => true
  | _ => false

/-- The path ends in a slash behind the name of what it leads to. -/
def endsInSlash (path : String) : Bool :=
  let pieces := (splitAt '/' path.toList).reverse
  pieces.head? == some [] && (pieces.find? (· != [])) != some ['.']

/-- The path is one from the root. -/
def isRooted (path : String) : Bool :=
  path.toList.head? == some '/'

/-- The text of the root in front of a path; of two slashes, and no more, both are kept. -/
def rootText (path : String) : String :=
  match path.toList with
  | '/' :: '/' :: r => if r.head? = some '/' then "/" else "//"
  | _ => "/"

/-- The text holds a null character, which no path may. -/
def holdsNull (text : String) : Bool :=
  text.toList.contains '\x00'

/-- The names that a path comes to when each `..` takes back the name in front of it; the root has
none that could be taken back. -/
def plainNames : List String → List String → List String
  | done, [] => done
  | done, n :: r =>
    if n = ".." then plainNames done.dropLast r else plainNames (done ++ [n]) r

namespace FileTree

/-- What a path leads to. -/
inductive Target where
  | folder
  | file (names : List String) (f : File)
  /-- A name that is not taken in a folder that is there. -/
  | vacant (folder : List String) (name : String)

/-- Why a path leads to nothing. -/
inductive Obstruction where
  | missing
  | notFolder
  | tooLong

/-- The most bytes of a name. -/
def nameLimit : Nat :=
  255

/-- The most bytes of a path. -/
def pathLimit : Nat :=
  4095

/-- Why nothing has a name. -/
def absence (name : String) : Obstruction :=
  if nameLimit < name.utf8ByteSize then .tooLong else .missing

/-- The names lead to a folder of the tree. -/
def isFolder (t : FileTree) (names : List String) : Bool :=
  names.isPrefixOf t.workplace || t.folders.contains names ||
    t.files.any fun f => names.length < f.1.length && names.isPrefixOf f.1

/-- The folder from which a path leads. -/
def start (t : FileTree) (path : String) : List String :=
  if isRooted path then [] else t.workplace

/-- The names to which a path leads from the root, whatever stands on the way. -/
def namesOf (t : FileTree) (path : String) : List String :=
  plainNames (t.start path) (pathNames path)

/-- What names lead to from a folder. -/
def walk (t : FileTree) : List String → List String → Except Obstruction Target
  | _, [] => .ok .folder
  | folder, n :: r =>
    if n = ".." then walk t folder.dropLast r
    else
      let names := folder ++ [n]
      if t.isFolder names then walk t names r
      else
        match t.files.lookup names with
        | some f => if r.isEmpty then .ok (.file names f) else .error .notFolder
        | none => if r.isEmpty then .ok (.vacant folder n) else .error (absence n)

/-- What a path leads to. -/
def find (t : FileTree) (path : String) : Except Obstruction Target :=
  if path = "" then .error .missing
  else if pathLimit < path.utf8ByteSize then .error .tooLong
  else t.walk (t.start path) (pathNames path)

/-- The error of a path that leads to nothing. -/
def Obstruction.error (path : String) : Obstruction → Error
  | missing => .file (.missing path)
  | notFolder => .file (.notDirectory path)
  | tooLong => .file (.tooLong path)

/-- The content of the file at a path. -/
def read (t : FileTree) (path : String) : Except Error Bytes :=
  if holdsNull path then .error (.stray .nullInPath)
  else
    match t.find path with
    | .error o => .error (o.error path)
    | .ok .folder => .error (.file (.isDirectory path))
    | .ok (.vacant _ name) => .error ((absence name).error path)
    | .ok (.file _ f) =>
      if endsInFolder path then .error (.file (.notDirectory path)) else .ok f.content

/-- The tree with another content of a file. -/
def put (t : FileTree) (names : List String) (content : Bytes) : FileTree :=
  { t with files := t.files.filter (fun f => f.1 != names) ++ [(names, .regular content)] }

/-- The text of names as a path from a root. -/
def pathText (root : String) (names : List String) : String :=
  root ++ "/".intercalate names

/-- The error of a folder that is made where a file stands, or of the first folder below that
file. -/
def blocked (root : String) (names : List String) : List String → Error
  | [] => .file (.occupied (pathText root names))
  | n :: _ =>
    if holdsNull n then .stray .nullInPath
    else .file (.notDirectory (pathText root (names ++ [n])))

/-- Makes all folders on the way to a folder.  A name that holds a null character or is too long and
a file in the way put an end to it; the folders made until then stay. -/
def makeFolders (root : String) (t : FileTree) (done : List String) :
    List String → FileTree × Option Error
  | [] => (t, none)
  | n :: r =>
    let names := done ++ [n]
    if t.isFolder names then makeFolders root t names r
    else if holdsNull n then (t, some (.stray .nullInPath))
    else if (t.files.lookup names).isSome then (t, some (blocked root names r))
    else if nameLimit < n.utf8ByteSize then (t, some (.file (.tooLong (pathText root names))))
    else makeFolders root { t with folders := names :: t.folders } names r

/-- Makes the folders in which a path lies. -/
def makeParents (t : FileTree) (path : String) : FileTree × Option Error :=
  t.makeFolders (rootText path) [] (t.namesOf path).dropLast

/-- The names under which a file at a path is written. -/
def place (t : FileTree) (path : String) : Except Error (List String) :=
  match t.find path with
  | .error o => .error (o.error path)
  | .ok .folder => .error (.file (.isDirectory path))
  | .ok (.file names _) =>
    if endsInSlash path then .error (.file (.isDirectory path))
    else if endsInFolder path then .error (.file (.notDirectory path))
    else .ok names
  | .ok (.vacant folder name) =>
    if endsInSlash path then .error (.file (.isDirectory path))
    else if endsInFolder path || nameLimit < name.utf8ByteSize then
      .error ((absence name).error path)
    else .ok (folder ++ [name])

/-- Writes to what stands under names: a file gets another content, and a device may show it. -/
def send (t : FileTree) (names : List String) (content : Bytes) : FileTree × Option Screen :=
  match t.files.lookup names with
  | some (.device _ screen) => (t, screen)
  | _ => (t.put names content, none)

/-- Writes a file at a path, in folders that are made where they are missing: the tree that this
leaves, and where the content is shown or the error if the file cannot be written. -/
def write (t : FileTree) (path : String) (content : Bytes) :
    FileTree × Except Error (Option Screen) :=
  match t.makeParents path with
  | (t, some e) => (t, .error e)
  | (t, none) =>
    if holdsNull path then (t, .error (.stray .nullInPath))
    else
      match t.place path with
      | .error e => (t, .error e)
      | .ok names => ((t.send names content).1, .ok (t.send names content).2)

/-- The files of a tree that another one does not have, or has with another content, each by its
path from the working folder, or else from the root. -/
def newFiles (before after : FileTree) : List (String × Bytes) :=
  Entries.sorted ((after.files.filter fun f => before.files.lookup f.1 != some f.2).map
    fun f =>
      let shown :=
        if after.workplace.isPrefixOf f.1 then pathText "" (f.1.drop after.workplace.length)
        else pathText "/" f.1
      (shown, f.2.content))

end FileTree

end GrowthGrammar
