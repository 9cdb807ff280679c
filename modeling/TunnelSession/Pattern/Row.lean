/-!
How deep the parts of a pattern are nested in one another. Things side by side are a row, and a row
of two or more is a level of its own.
-/
namespace TunnelSession.Pattern

/-- How many things stand side by side, and how deep the deepest of them is nested. -/
structure Row where
  count : Nat := 0
  deepest : Nat := 0
  deriving DecidableEq, Repr

namespace Row

def add (r : Row) (depth : Nat) : Row :=
  ⟨r.count + 1, max r.deepest depth⟩

def depth (r : Row) : Nat :=
  if r.count ≤ 1 then r.deepest else r.deepest + 1

end Row

end TunnelSession.Pattern
