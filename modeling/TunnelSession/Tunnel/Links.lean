import TunnelSession.Text.Blank
import TunnelSession.Text.Split

/-!
The links setting: one endpoint a line, stripped of blanks, and no endpoint on a blank line.
-/
namespace TunnelSession.Tunnel

def linkChars (cs : List Char) : List (List Char) :=
  ((Text.pieces '\n' cs).map Text.strip).filter (· ≠ [])

def links (text : String) : List String :=
  (linkChars text.toList).map String.ofList

end TunnelSession.Tunnel
