/-!
A folder as a program finds it: there or not, and with what under which name. File names are
bytes, and so are contents; both need not be UTF-8. A file is reached by the folder's path and its
own name, and the longer that path is, the shorter are the names of the files in reach.
-/
namespace TunnelSession

abbrev FileName := List UInt8

def FileName.ofString (s : String) : FileName :=
  s.toUTF8.toList

def FileName.text? (name : FileName) : Option String :=
  String.fromUTF8? ⟨name.toArray⟩

/-- The bytes that a name can have at most. -/
def nameLimit : Nat := 255

/-- The bytes that a path can have at most. -/
def pathLimit : Nat := 4095

/-- Contents are compared byte by byte. -/
local instance contentDecidableEq : DecidableEq ByteArray := ByteArray.instDecidableEq

/-- A link is not followed, whatever it leads to. -/
inductive Entry where
  | file (content : ByteArray)
  | folder
  | link
  deriving DecidableEq

/-- What keeps a folder or a file from being made. -/
inductive Obstacle where
  | fileInPlace
  | fileAbove
  | folderInPlace
  | nothingAbove
  | longName
  | zeroInName
  deriving DecidableEq, Repr

def Obstacle.message : Obstacle → String
  | .fileInPlace => "File exists (os error 17)"
  | .fileAbove => "Not a directory (os error 20)"
  | .folderInPlace => "Is a directory (os error 21)"
  | .nothingAbove => "No such file or directory (os error 2)"
  | .longName => "File name too long (os error 36)"
  | .zeroInName => "file name contained an unexpected NUL byte"

/-- What stands at a folder's path: nothing yet, something else, or a folder with its entries, no
two of one name. An `unreached` folder is there, but its path leads through others that are yet to
be made. An `unlisted` folder gives its files by name only. -/
inductive Folder.State where
  | missing
  | blocked (obstacle : Obstacle)
  | present (entries : List (FileName × Entry))
  | unreached (entries : List (FileName × Entry))
  | unlisted (entries : List (FileName × Entry))
  deriving DecidableEq

/-- A folder, at a path that may leave only so much `room` for the name of a file, in bytes. -/
structure Folder where
  state : Folder.State
  room : Option Nat
  deriving DecidableEq

namespace Folder

def missing : Folder := ⟨.missing, none⟩

def blocked (obstacle : Obstacle) : Folder := ⟨.blocked obstacle, none⟩

def present (entries : List (FileName × Entry)) : Folder := ⟨.present entries, none⟩

/-- The bytes that a path takes when a file's name comes after it. A slash goes between them, unless
the path is empty or ends in one. -/
def bytesBefore (path : FileName) : Nat :=
  if path = [] ∨ path.getLast? = some '/'.toUInt8 then path.length else path.length + 1

def ofPath (path : FileName) (state : State) : Folder :=
  ⟨state, some (pathLimit - bytesBefore path)⟩

def State.entries : State → List (FileName × Entry)
  | .present es | .unlisted es => es
  | _ => []

def entries (dir : Folder) : List (FileName × Entry) := dir.state.entries

/-- The entries as the folder lists them. -/
def listing (dir : Folder) : List (FileName × Entry) :=
  match dir.state with
  | .present es => es
  | _ => []

/-- Whether there is room for a name. -/
def fits (room : Option Nat) (name : FileName) : Bool :=
  room.all (name.length ≤ ·)

/-- What is reached by a name. -/
def find? (dir : Folder) (name : FileName) : Option Entry :=
  if fits dir.room name then dir.entries.lookup name else none

def textOf : Entry → Option String
  | .file content => String.fromUTF8? content
  | _ => none

/-- The text of a file; none when there is no regular file in reach by that name, or it is not
UTF-8. -/
def text? (dir : Folder) (name : FileName) : Option String :=
  (dir.find? name).bind textOf

/-- The entries with one of them put in the place of its namesake, or at the end. -/
def put {α : Type} (name : FileName) (entry : α) : List (FileName × α) → List (FileName × α)
  | [] => [(name, entry)]
  | e :: es => if e.1 = name then (name, entry) :: es else e :: put name entry es

def State.made : State → State
  | .missing => .present []
  | .unreached es => .present es
  | state => state

/-- The folder once it has been made where it was missing, with the others on its path. -/
def made (dir : Folder) : Folder := { dir with state := dir.state.made }

/-- Changes a file's content, which is empty for a file not there before. -/
def change (room : Option Nat) (name : FileName) (f : ByteArray → ByteArray)
    (es : List (FileName × Entry)) : Except Obstacle (List (FileName × Entry)) :=
  if fits room name then
    match es.lookup name with
    | none => .ok (put name (.file (f .empty)) es)
    | some (.file content) => .ok (put name (.file (f content)) es)
    | some _ => .error .folderInPlace
  else .error .longName

def State.modify (room : Option Nat) (name : FileName) (f : ByteArray → ByteArray) :
    State → Except Obstacle State
  | .blocked obstacle => .error obstacle
  | .missing => .present <$> change room name f []
  | .present es | .unreached es => .present <$> change room name f es
  | .unlisted es => .unlisted <$> change room name f es

/-- Changes a file's content. The folder is made first where it is missing. -/
def modify (dir : Folder) (name : FileName) (f : ByteArray → ByteArray) :
    Except Obstacle Folder :=
  ({ dir with state := · }) <$> dir.state.modify dir.room name f

def write (dir : Folder) (name : FileName) (content : ByteArray) : Except Obstacle Folder :=
  dir.modify name fun _ => content

def append (dir : Folder) (name : FileName) (text : String) : Except Obstacle Folder :=
  dir.modify name (· ++ text.toUTF8)

end Folder

end TunnelSession
