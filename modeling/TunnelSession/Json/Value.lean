/-!
JSON values. A string literal may name half of a surrogate pair by its escapes: it is well formed,
but no text has that half, so the literal holds `none`.
-/
namespace TunnelSession

inductive Json where
  | null
  | boolean (value : Bool)
  | number (literal : String)
  | text (value : Option String)
  | array (items : List Json)
  | object (members : List (Option String × Json))
  deriving Inhabited

namespace Json

def ofString (s : String) : Json := .text (some s)

end Json

end TunnelSession
