import TunnelSession.Pattern.Row
import TunnelSession.Pattern.Sign

/-!
Sets of characters in brackets: characters, ranges of them, sets by name, and sets inside sets,
joined by operators of two equal signs. Only the nesting of a set is worked out, not what is in it.
-/
namespace TunnelSession.Pattern

/-- The names that stand between `[:` and `:]`. -/
def setNames : List String :=
  ["alnum", "alpha", "ascii", "blank", "cntrl", "digit", "graph", "lower", "print", "punct",
    "space", "upper", "word", "xdigit"]

/-- A set that is being read, up to its last operator and from there on. `isFresh` is it until
something else than a hyphen has been read. -/
structure OpenSet where
  left : Option Nat := none
  items : Row := {}
  isFresh : Bool := true
  deriving DecidableEq, Repr

namespace OpenSet

def depth (s : OpenSet) : Nat :=
  match s.left with
  | none => s.items.depth
  | some left => max left s.items.depth + 1

def add (s : OpenSet) (depth : Nat) : OpenSet :=
  { s with items := s.items.add depth }

def operate (s : OpenSet) : OpenSet :=
  ⟨some s.depth, {}, false⟩

end OpenSet

/-- A set's name, after the bracket that opens it, and whether it means all other characters. -/
def setName? : List Char → Option (Bool × List Char)
  | ':' :: cs =>
    let (negated, cs) := match cs with
      | '^' :: cs => (true, cs)
      | _ => (false, cs)
    match cs.span (· != ':') with
    | (name, ':' :: ']' :: rest) =>
      if setNames.contains (String.ofList name) then some (negated, rest) else none
    | _ => none
  | _ => none

/-- What follows the bracket that opens a set: a circumflex for all other characters, or not. -/
def opened? (m : Modes) (cs : List Char) : Option (List Char) :=
  match m.skip cs with
  | '^' :: rest => if m.bytes then none else some rest
  | rest => some rest

def member? (m : Modes) : List Char → Option (Sign × List Char)
  | '\\' :: cs => Sign.escape? m cs
  | c :: cs => some (.char c, cs)
  | [] => none

/-- A member of a set, or a range of them. A hyphen before another or before the closing bracket
makes no range. -/
def range? (m : Modes) (cs : List Char) : Option (List Char) := do
  let (low, rest) ← member? m cs
  guard (low.isMember m)
  match m.skip rest with
  | '-' :: after =>
    if m.next? after = some ']' ∨ m.next? after = some '-' then return '-' :: after
    else
      let (high, rest) ← member? m (m.skip after)
      guard (high.isMember m)
      guard ((← low.char?) ≤ (← high.char?))
      return rest
  | rest => return rest

/-- Reads a set to the bracket that closes it: its nesting, and what follows. Fuel bounds the number
of items. -/
def readSet? (m : Modes) : Nat → OpenSet → List OpenSet → List Char → Option (Nat × List Char)
  | 0, _, _, _ => none
  | fuel + 1, s, outer, cs =>
    match m.skip cs with
    | [] => none
    | c :: cs =>
      if s.isFresh ∧ (c = '-' ∨ c = ']' ∧ s.items.count = 0) then do
        guard (Sign.isMember m (.char c))
        readSet? m fuel { s.add 0 with isFresh := c == '-' } outer cs
      else
        let s := { s with isFresh := false }
        match c, cs with
        | '[', cs =>
          match setName? cs with
          | some (negated, rest) => do
            guard (if m.bytes then !negated else !m.caseless)
            readSet? m fuel (s.add 0) outer rest
          | none => do readSet? m fuel {} (s :: outer) (← opened? m cs)
        | ']', cs =>
          match outer with
          | [] => some (s.depth + 1, cs)
          | around :: outer => readSet? m fuel (around.add (s.depth + 1)) outer cs
        | '&', '&' :: cs | '-', '-' :: cs | '~', '~' :: cs => readSet? m fuel s.operate outer cs
        | c, cs => do readSet? m fuel (s.add 0) outer (← range? m (c :: cs))

/-- A set, after the bracket that opens it. -/
def set? (m : Modes) (cs : List Char) : Option (Nat × List Char) := do
  readSet? m (cs.length + 1) {} [] (← opened? m cs)

end TunnelSession.Pattern
