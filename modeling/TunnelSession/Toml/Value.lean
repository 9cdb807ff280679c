/-!
TOML values. Floats and dates are kept as they were written.
-/
namespace TunnelSession

inductive Toml where
  | text (value : String)
  | integer (value : Int)
  | float (text : String)
  | boolean (value : Bool)
  | date (text : String)
  | array (items : List Toml)
  | table (members : List (String × Toml))

end TunnelSession
