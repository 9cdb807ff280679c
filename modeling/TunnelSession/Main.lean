import Std.Time.DateTime.Timestamp
import TunnelSession.Shell.Basic
import TunnelSession.Shell.Launch

/-!
The shell's command line. The first argument names the configuration file. The data folder is read
before each line of input and written after it, and the clock is set at the same time.
-/
namespace TunnelSession.Main

open Shell

/-- What stands at a path of the file system. -/
def look (path : String) : IO Found := do
  try
    match String.fromUTF8? (← IO.FS.readBinFile path) with
    | some text => return .text text
    | none => return .unreadable
  catch
    | .noFileOrDirectory .. => return .nothing
    | _ => return .unreadable

def now : IO Moment :=
  return ⟨(← Std.Time.Timestamp.now).toNanosecondsSinceUnixEpoch.toInt.toNat⟩

def entry (file : IO.FS.DirEntry) : IO (FileName × Entry) := do
  let kind ← try pure (← file.path.symlinkMetadata).type catch _ => pure .other
  let found ←
    match kind with
    | .file => try pure (Entry.file (← IO.FS.readBinFile file.path)) catch _ => pure .link
    | .dir => pure .folder
    | _ => pure .link
  return (.ofString file.fileName, found)

/-- What keeps a folder from being listed: it is missing, or something stands in its way. A path
that ends in a dot makes no folder. -/
def obstructed (path : String) : IO Folder.State := do
  try
    let _ ← IO.FS.readBinFile (String.ofList (path.toList.reverse.dropWhile (· == '/')).reverse)
    return .blocked .fileInPlace
  catch
    | .noFileOrDirectory .. =>
      return if path.endsWith "/." then .blocked .nothingAbove else .missing
    | .invalidArgument .. =>
      return .blocked (if path.contains '\x00' then .zeroInName else .longName)
    | _ => return .blocked .fileAbove

/-- The folder at a path. The empty path names the working directory. -/
def folder (path : String) : IO Folder := do
  try
    let files ← (← IO.FS.realPath (if path.isEmpty then "." else path)).readDir
    let entries ← files.toList.mapM entry
    return .ofPath (.ofString path) (if path.isEmpty then .unlisted entries else .present entries)
  catch _ => return .ofPath (.ofString path) (← obstructed path)

/-- Writes the files that differ from those that were found. -/
def save (path : String) (found made : Folder) : IO Unit := do
  let start := if path.isEmpty || path.endsWith "/" then path else path ++ "/"
  for (name, entry) in made.entries do
    if found.entries.lookup name ≠ some entry then
      match name.text?, entry with
      | some name, .file content =>
        try
          if !path.isEmpty then IO.FS.createDirAll path
          IO.FS.writeBinFile (start ++ name) content
        catch _ => pure ()
      | _, _ => pure ()

/-- A line of input; none where it is not text, and nothing at all at the end. -/
def input (stdin : IO.FS.Stream) : IO (Option (Option String)) := do
  try
    let line ← stdin.getLine
    return if line.isEmpty then none else some (some line)
  catch _ => return some none

partial def serve (path : String) (stdin : IO.FS.Stream) (s : Shell) : IO Shell := do
  if s.ended then return s
  match ← input stdin with
  | none => return (s.step .inputEnd).2
  | some line =>
    let found ← folder path
    let before := (s.inFolder found).advance (← now)
    let (printed, s) := before.feed [line]
    IO.print (Console.printed printed)
    (← IO.getStdout).flush
    save path found s.folder
    serve path stdin s

def run (c : Config) : IO UInt32 := do
  let path := c.dataDir
  let found ← folder path
  let (printed, s) := Shell.launch c found (← now)
  IO.print (Console.printed printed)
  (← IO.getStdout).flush
  save path found s.folder
  let s ← serve path (← IO.getStdin) s
  let found ← folder path
  let (verdict, session) := ((s.inFolder found).advance (← now)).close
  save path found session.store.dir
  match verdict with
  | .refused cause =>
    IO.eprintln ("Error: " ++ cause.message)
    return 1
  | _ => return 0

end TunnelSession.Main

def main (args : List String) : IO UInt32 := do
  let path := args.head?
  let found ← TunnelSession.Main.look (path.getD TunnelSession.Shell.Config.defaultFile)
  let filter ← IO.getEnv "RUST_LOG"
  match TunnelSession.Shell.configure (fun _ => found) path filter with
  | .ok c => TunnelSession.Main.run c
  | .error cause =>
    IO.eprintln cause.report
    return cause.exitCode.toUInt32
