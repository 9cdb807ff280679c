/-!
Text set in a column: cut to a precision, then filled with spaces to a width. Both are limited.
-/
namespace TunnelSession.Text

inductive Align where
  | left
  | right
  | center
  deriving DecidableEq, Repr

/-- A centred text whose spaces do not share out evenly has the larger part on its right. -/
def fill (align : Align) (width : Nat) (cs : List Char) : List Char :=
  let gap := width - cs.length
  let before :=
    match align with
    | .left => 0
    | .right => gap
    | .center => gap / 2
  List.replicate before ' ' ++ cs ++ List.replicate (gap - before) ' '

/-- The largest width and the largest precision that a column can be given. -/
def columnLimit : Nat := 65535

/-- What is said of a width or a precision beyond the limit. -/
def columnOutOfRange : String := "Formatting argument out of range"

/-- The text's first `precision` characters, in a column of the given width. -/
def column? (align : Align) (width precision : Nat) (s : String) : Option String :=
  if width ≤ columnLimit ∧ precision ≤ columnLimit then
    some (String.ofList (fill align width (s.toList.take precision)))
  else none

/-- A text in a column that cuts nothing off. -/
def inColumn (align : Align) (width : Nat) (s : String) : String :=
  String.ofList (fill align width s.toList)

end TunnelSession.Text
