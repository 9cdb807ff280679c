import TunnelSession.Pattern.Set
import TunnelSession.Text.Figure

/-!
Patterns for the values of a filter's fields: regular expressions with alternatives, repetitions,
sets, and groups that may have a name or modes of their own. No equals sign, comma or closing brace
gets into such a value, so a count in braces is never complete, and a brace that opens one is an
error.
-/
namespace TunnelSession.Pattern

/-- How deep the parts of a pattern may be nested in one another. -/
def depthLimit : Nat := 250

/-- A group that is being read: its alternatives up to the last bar, and the parts after it. `last`
is the depth of a part that a repetition can follow. -/
structure Group where
  alternatives : Row := {}
  parts : Row := {}
  last : Option Nat := none
  deriving DecidableEq, Repr

namespace Group

def add (g : Group) (depth : Nat) : Group :=
  { g with parts := g.parts.add depth, last := some depth }

/-- Switched modes are a part of their own, which cannot be repeated. -/
def addModes (g : Group) : Group :=
  { g.add 0 with last := none }

def bar (g : Group) : Group :=
  ⟨g.alternatives.add g.parts.depth, {}, none⟩

def repeat? (g : Group) : Option Group :=
  g.last.map fun depth =>
    { g with parts.deepest := max g.parts.deepest (depth + 1), last := some (depth + 1) }

def depth (g : Group) : Nat := g.bar.alternatives.depth

end Group

/-- A pattern that is being read: the modes, the innermost group, the groups around it with the
modes that come back at its end, and the names given so far. -/
structure State where
  modes : Modes := {}
  group : Group := {}
  outer : List (Modes × Group) := []
  names : List (List Char) := []

namespace State

def add (s : State) (depth : Nat) : State :=
  { s with group := s.group.add depth }

def enter (s : State) (modes : Modes) : State :=
  { s with modes, group := {}, outer := (s.modes, s.group) :: s.outer }

def leave? (s : State) : Option State :=
  match s.outer with
  | [] => none
  | (modes, group) :: outer =>
    some { s with modes, group := group.add (s.group.depth + 1), outer }

def isName (name : List Char) : Bool :=
  match name with
  | [] => false
  | c :: cs =>
    (c == '_' || Text.isAlphabetic c) &&
    cs.all fun c => c == '_' || c == '.' || c == '[' || c == ']' || Text.isLetter c

def enterNamed? (s : State) (cs : List Char) : Option (State × List Char) :=
  match cs.span (· != '>') with
  | (name, _ :: rest) =>
    if isName name ∧ name ∉ s.names then
      some ({ s.enter s.modes with names := name :: s.names }, rest)
    else none
  | (_, []) => none

/-- What follows the parenthesis and question mark that open a group with modes, or switch the modes
of the group they are in. -/
def enterWithModes? (s : State) (cs : List Char) : Option (State × List Char) :=
  match cs.span fun c => c != ':' && c != ')' with
  | (signs, ':' :: rest) => (s.modes.switch? signs).map (s.enter ·, rest)
  | (signs, _ :: rest) =>
    if signs = [] then none
    else
      (s.modes.switch? signs).map fun modes =>
        ({ s with modes, group := s.group.addModes }, rest)
  | (_, []) => none

/-- What follows the parenthesis that opens a group. -/
def enter? (s : State) (cs : List Char) : Option (State × List Char) :=
  match s.modes.skip cs with
  | '?' :: 'P' :: '<' :: cs | '?' :: '<' :: cs => s.enterNamed? cs
  | '?' :: cs => s.enterWithModes? cs
  | cs => some (s.enter s.modes, cs)

/-- Reads one part, or the sign that begins one. -/
def step? (s : State) : List Char → Option (State × List Char)
  | [] => none
  | '(' :: cs => s.enter? cs
  | ')' :: cs => s.leave?.map (·, cs)
  | '|' :: cs => some ({ s with group := s.group.bar }, cs)
  | '[' :: cs => (set? s.modes cs).map fun (depth, cs) => (s.add depth, cs)
  | '\x7b' :: _ => none
  | '.' :: cs => if s.modes.bytes then none else some (s.add 0, cs)
  | '^' :: cs | '$' :: cs => some (s.add 0, cs)
  | '\\' :: cs => do
    let (sign, cs) ← Sign.escape? s.modes cs
    if sign.isUsable s.modes then some (s.add 0, cs) else none
  | c :: cs =>
    if c = '?' ∨ c = '*' ∨ c = '+' then
      s.group.repeat?.map fun group =>
        ({ s with group }, if cs.head? = some '?' then cs.drop 1 else cs)
    else if Sign.isUsable s.modes (.char c) then some (s.add 0, cs)
    else none

/-- Reads a pattern to its end: how deep it is nested. Fuel bounds the number of steps. -/
def read? : Nat → State → List Char → Option Nat
  | 0, _, _ => none
  | fuel + 1, s, cs =>
    match s.modes.skip cs with
    | [] => if s.outer.isEmpty then some s.group.depth else none
    | cs => (s.step? cs).bind fun (s, cs) => read? fuel s cs

end State

/-- How deep a pattern is nested; none when the text is no pattern. -/
def depth? (cs : List Char) : Option Nat :=
  State.read? (cs.length + 1) {} cs

def isValid (cs : List Char) : Bool :=
  (depth? cs).any (· ≤ depthLimit)

end TunnelSession.Pattern
