import TunnelSession.Folder
import TunnelSession.Log.Date

/-!
Engine logs. Each session writes one file into the storage folder, named for the second it was
opened in, so that the names sort by age; a line is a moment and a text. The newest log is the
regular file whose name starts in `log-` and is the greatest byte by byte.
-/
namespace TunnelSession.Log

/-- What the name of every log starts with. -/
def mark : String := "log-"

def Date.fileName (d : Date) : FileName :=
  .ofString (mark ++ fourDigits d.year ++ Text.twoDigits d.month ++ Text.twoDigits d.day ++ "-" ++
    Text.twoDigits d.hour ++ Text.twoDigits d.minute ++ Text.twoDigits d.second ++ ".txt")

def line (now : Moment) (text : String) : String :=
  stamp now ++ " | " ++ text ++ "\n"

/-- Makes sure that a log is there. -/
def start (dir : Folder) (name : FileName) : Except Obstacle Folder :=
  dir.modify name id

/-- Adds a line to a log; a log that cannot be written stays as it is. -/
def add (dir : Folder) (name : FileName) (now : Moment) (text : String) : Folder :=
  match dir.append name (line now text) with
  | .ok dir => dir
  | .error _ => dir

def isLogName (name : FileName) : Bool :=
  name.text?.isSome && (FileName.ofString mark).isPrefixOf name

def isLog (e : FileName × Entry) : Bool :=
  match e.2 with
  | .file _ => isLogName e.1
  | _ => false

/-- The later of two names. -/
def later (a b : FileName × Entry) : FileName × Entry :=
  if a.1 ≤ b.1 then b else a

def newest? (dir : Folder) : Option (FileName × Entry) :=
  match dir.listing.filter isLog with
  | [] => none
  | e :: es => some (es.foldl later e)

/-- The newest log's text; nothing when there is no log, or it cannot be read. -/
def newestText (dir : Folder) : String :=
  ((newest? dir).bind (dir.text? ·.1)).getD ""

/-- Whether a name is that of an engine's log, with a date and a time of day. -/
def isDated (name : FileName) : Bool :=
  match name.text?.map String.toList with
  | some cs =>
    cs.length = 23 ∧ isLogName name ∧ ((cs.drop 4).take 8).all Char.isDigit ∧
      cs[12]? = some '-' ∧ ((cs.drop 13).take 6).all Char.isDigit ∧
      cs.drop 19 = ['.', 't', 'x', 't']
  | none => false

/-- The texts of the engine's logs, by age. -/
def datedTexts (dir : Folder) : List String :=
  ((dir.entries.filter (isDated ·.1)).mergeSort fun a b => a.1 ≤ b.1).filterMap
    fun e => Folder.textOf e.2

end TunnelSession.Log
