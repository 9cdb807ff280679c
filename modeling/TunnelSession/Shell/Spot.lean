import TunnelSession.Folder

/-!
Folders seen from inside. A spot is a folder with all that is above it, so one step leads on into a
folder or back out of it, and a change made at a spot can be carried up to the root.
-/
namespace TunnelSession.Shell

/-- What a folder holds under a name. -/
inductive Node where
  | file (content : ByteArray)
  | link
  | folder (nodes : List (FileName × Node))

def Node.entry : Node → Entry
  | .file content => .file content
  | .link => .link
  | .folder _ => .folder

/-- A new folder holds nothing. -/
def Node.ofEntry : Entry → Node
  | .file content => .file content
  | .link => .link
  | .folder => .folder []

/-- The folders above come innermost first, each with the name that leads from it to the one
below. -/
structure Spot where
  nodes : List (FileName × Node)
  above : List (FileName × List (FileName × Node))

/-- Where steps lead: into a folder, or to a name in one under which there is no folder. -/
inductive Target where
  | folder (spot : Spot)
  | other (spot : Spot) (name : FileName)

namespace Spot

def dot : FileName := .ofString "."

def twoDots : FileName := .ofString ".."

def into? (s : Spot) (name : FileName) : Option Spot :=
  match s.nodes.lookup name with
  | some (.folder nodes) => some ⟨nodes, (name, s.nodes) :: s.above⟩
  | _ => none

/-- One folder up. Out of the root there is no way. -/
def back (s : Spot) : Spot :=
  match s.above with
  | [] => s
  | (name, nodes) :: above => ⟨Folder.put name (.folder s.nodes) nodes, above⟩

/-- What the root holds. -/
def root (s : Spot) : List (FileName × Node) :=
  s.above.foldl (fun below (name, nodes) => Folder.put name (.folder below) nodes) s.nodes

def put (s : Spot) (name : FileName) (node : Node) : Spot :=
  { s with nodes := Folder.put name node s.nodes }

def listing (s : Spot) : List (FileName × Entry) :=
  s.nodes.map fun (name, node) => (name, node.entry)

/-- Where one step leads. The steps of an empty name and of a dot stay in the folder. -/
def step (s : Spot) (name : FileName) : Except Obstacle Target :=
  if name = [] ∨ name = dot then .ok (.folder s)
  else if name = twoDots then .ok (.folder s.back)
  else if nameLimit < name.length then .error .longName
  else .ok ((s.into? name).elim (.other s name) .folder)

end Spot

namespace Target

/-- A step can only start in a folder. -/
def enter : Target → Except Obstacle Spot
  | .folder spot => .ok spot
  | .other spot name =>
    .error (if (spot.nodes.lookup name).isSome then .fileAbove else .nothingAbove)

def follow (t : Target) : List FileName → Except Obstacle Target
  | [] => .ok t
  | name :: names => do follow (← (← t.enter).step name) names

end Target

end TunnelSession.Shell
