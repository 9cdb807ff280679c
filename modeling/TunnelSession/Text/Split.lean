/-!
Texts cut at a separator. A text has one piece more than it has separators, and lines are the
pieces between newlines, except that a final newline opens no further line.
-/
namespace TunnelSession.Text

/-- The pieces of a text between separators. -/
def pieces {α : Type} [DecidableEq α] (sep : α) : List α → List (List α)
  | [] => [[]]
  | c :: cs =>
    if c = sep then [] :: pieces sep cs
    else
      match pieces sep cs with
      | [] => [[c]]
      | p :: ps => (c :: p) :: ps

/-- The part before the first separator and the part after it; all of the text and nothing when
there is none. -/
def cut (sep : Char) (cs : List Char) : List Char × List Char :=
  (cs.takeWhile (· != sep), (cs.dropWhile (· != sep)).drop 1)

def withoutReturn (line : List Char) : List Char :=
  if line.getLast? = some '\r' then line.dropLast else line

/-- The lines of a text. A carriage return before a newline belongs to the line's end. -/
def lines (cs : List Char) : List (List Char) :=
  let ps := pieces '\n' cs
  ps.dropLast.map withoutReturn ++
    match ps.getLast? with
    | some [] | none => []
    | some last => [last]

end TunnelSession.Text
