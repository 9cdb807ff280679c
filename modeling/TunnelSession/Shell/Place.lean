import TunnelSession.Shell.Config
import TunnelSession.Shell.Spot
import TunnelSession.Text.Split

/-!
A working directory as a shell finds it, with the files and folders below it and what is known of
those around it. A path is followed step by step, and each step starts in a folder, so two dots lead
back only out of a folder that is there. Of the folders around the directory only those on the way
to the root are known, though not by their names, and the one that holds the null device.
-/
namespace TunnelSession.Shell

structure Place where
  root : List (FileName × Node)

namespace Place

/-- How many steps back from the working directory the root is. -/
def depth : Nat := 2

/-- Folders inside one another. No step leads along an empty name. -/
def nameless : Nat → List (FileName × Node)
  | 0 => []
  | n + 1 => [([], .folder (nameless n))]

/-- The place with an empty working directory. There is never anything in the null device. -/
def empty : Place :=
  ⟨(.ofString "dev", .folder [(.ofString "null", .file .empty)]) :: nameless depth⟩

/-- The steps of a path. -/
def steps (path : FileName) : List FileName :=
  Text.pieces '/'.toUInt8 path

/-- Where the first step of a path starts: in the root if the path starts with a slash. -/
def start (p : Place) (path : FileName) : Spot :=
  if path.head? = some '/'.toUInt8 then ⟨p.root, []⟩
  else (List.replicate depth []).foldl (fun s name => (s.into? name).getD s) ⟨p.root, []⟩

/-- The place after a change at a spot. -/
def ofSpot (s : Spot) : Place := ⟨s.root⟩

/-- Where steps lead that start where those of a path do. -/
def follow (p : Place) (path : FileName) (steps : List FileName) : Except Obstacle Target :=
  Target.follow (.folder (p.start path)) steps

/-- What keeps a path from being followed at all. -/
def fault? (path : FileName) : Option Obstacle :=
  if path.contains 0 then some .zeroInName
  else if pathLimit < path.length then some .longName
  else none

def resolve (p : Place) (path : FileName) : Except Obstacle Target :=
  match fault? path with
  | some obstacle => .error obstacle
  | none => p.follow path (steps path)

def leadsToFolder (p : Place) (path : FileName) (steps : List FileName) : Bool :=
  match p.follow path steps with
  | .ok (.folder _) => true
  | _ => false

/-- Makes the last folder of a row of steps. Dots are the names of folders that are there. -/
def makeLast (p : Place) (path : FileName) (steps : List FileName) : Except Obstacle Place := do
  match (steps.reverse.dropWhile (· = [])) with
  | [] => throw .fileInPlace
  | name :: above =>
    let spot ← (← p.follow path above.reverse).enter
    if name = Spot.dot ∨ name = Spot.twoDots then throw .fileInPlace
    match ← spot.step name with
    | .folder _ => throw .fileInPlace
    | .other spot name =>
      if (spot.nodes.lookup name).isSome then throw .fileInPlace
      return ofSpot (spot.put name (.folder []))

/-- Makes the last folder unless it is there, and says what keeps it from being made. -/
def ensureLast (p : Place) (path : FileName) (steps : List FileName) : Place × Option Obstacle :=
  match p.makeLast path steps with
  | .ok p => (p, none)
  | .error obstacle => (p, if p.leadsToFolder path steps then none else some obstacle)

/-- Makes sure of a folder, given by its steps and, after these, those of the folders above it,
innermost first. A folder above is made only where one is missing. -/
def ensure (p : Place) (path : FileName) : List (List FileName) → Place × Option Obstacle
  | [] => (p, none)
  | steps :: above =>
    match p.ensureLast path steps with
    | (p, some .nothingAbove) =>
      match p.ensure path above with
      | (p, none) => p.ensureLast path steps
      | failed => failed
    | outcome => outcome

/-- The steps to the folders above, innermost first. Steps that stay where they are do not count. -/
def above (steps : List FileName) : List (List FileName) :=
  let names := steps.filter fun step => step ≠ [] ∧ step ≠ Spot.dot
  (((List.range names.length).drop 1).map names.take).reverse

/-- Makes the folder at a path, with all folders above it. An empty path asks for nothing. -/
def make (p : Place) (path : FileName) : Place × Option Obstacle :=
  if path = [] then (p, none)
  else
    match fault? path with
    | some obstacle => (p, some obstacle)
    | none => p.ensure path (steps path :: above (steps path))

/-- Puts a file or folder at a path, in folders that are made for it. -/
def add (p : Place) (path : FileName) (entry : Entry) : Place :=
  if entry = .folder then (p.make path).1
  else
    let (p, _) := p.ensure path (above (steps path))
    match p.resolve path with
    | .ok (.other spot name) => ofSpot (spot.put name (.ofEntry entry))
    | _ => p

/-- What is read at a path. -/
def find (p : Place) (path : FileName) : Found :=
  match p.resolve path with
  | .error _ => .nothing
  | .ok (.folder _) => .unreadable
  | .ok (.other spot name) =>
    match spot.nodes.lookup name with
    | some (.file content) => (String.fromUTF8? content).elim .unreadable .text
    | some _ => .unreadable
    | none => .nothing

/-- The folder at a path. An empty path names the working directory, but there is no listing it.
What keeps a folder from being made is what the second attempt finds, as the first one may have made
some of the folders above it. -/
def folder (p : Place) (path : FileName) : Folder :=
  .ofPath path <|
    if path = [] then .unlisted (p.start path).listing
    else
      match p.make path with
      | (made, some obstacle) => .blocked ((made.make path).2.getD obstacle)
      | (made, none) =>
        match (made.resolve path).bind Target.enter with
        | .error obstacle => .blocked obstacle
        | .ok spot =>
          if p.leadsToFolder path (steps path) then .present spot.listing
          else .unreached spot.listing

/-- The place after the files of a folder at a path have become as they are in `dir`. -/
def keep (p : Place) (path : FileName) (dir : Folder) : Place :=
  let (p, _) := p.make path
  match p.resolve path with
  | .ok (.folder spot) =>
    ofSpot <| dir.entries.foldl (fun spot (name, entry) =>
      if entry = .folder then spot else spot.put name (.ofEntry entry)) spot
  | _ => p

end Place

end TunnelSession.Shell
