/-!
Descriptors of established interfaces. Whoever holds one either lets go of it, and the interface
takes it back, or takes the bare number out of it and answers for that from then on.
-/
namespace TunnelSession

/-- `issuer` tells apart the interfaces that hand out descriptors. -/
structure Descriptor where
  fd : Int
  issuer : Nat := 0
  deriving DecidableEq, Repr

/-- A descriptor in somebody's hands. Its number is released as it is let go of, as long as it is
owned. -/
structure Handle extends Descriptor where
  owned : Bool := true
  deriving DecidableEq, Repr

namespace Handle

def text (h : Handle) : String :=
  "TunnelDescriptor \x7b fd: " ++ toString h.fd ++ ", owned: " ++ toString h.owned ++ " \x7d"

/-- The numbers that are released as the handle is let go of. -/
def releases (h : Handle) : List Int :=
  if h.owned then [h.fd] else []

/-- A handle that is no longer answered for. It is let go of like any other. -/
def detach (h : Handle) : Handle :=
  { h with owned := false }

end Handle

/-- A place for one descriptor, with the numbers released so far. -/
structure Slot where
  held : Option Handle
  released : List Int

namespace Slot

def empty : Slot := ⟨none, []⟩

inductive Step where
  | create (fd : Int)
  | readFd
  | describe
  | takeRaw
  | drop
  deriving DecidableEq, Repr

inductive Answer where
  | nothing
  | fd (n : Int)
  | text (s : String)
  deriving DecidableEq, Repr

def letGo (s : Slot) : Slot :=
  ⟨none, s.released ++ s.held.toList.flatMap Handle.releases⟩

def fdOf : Option Handle → Answer
  | none => .nothing
  | some h => .fd h.fd

def textOf : Option Handle → String
  | none => "None"
  | some h => "Some(" ++ h.text ++ ")"

/-- A descriptor put into a full slot is made first; then the old one is let go. One that is taken
out is detached and then let go. -/
def step (s : Slot) : Step → Answer × Slot
  | .create fd => (.nothing, { s.letGo with held := some { fd } })
  | .readFd => (fdOf s.held, s)
  | .describe => (.text (textOf s.held), s)
  | .takeRaw => (fdOf s.held, { s with held := s.held.map Handle.detach }.letGo)
  | .drop => (.nothing, s.letGo)

end Slot

end TunnelSession
