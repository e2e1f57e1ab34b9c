/-!
# TOML values

The values of a configuration file. Dates and times are kept as text in their normal form.
-/

namespace CwebHighlight.Toml

inductive Value where
  | string (s : String)
  | integer (n : Int)
  | float (x : Float)
  | boolean (b : Bool)
  | datetime (text : String)
  | array (items : List Value)
  | table (entries : List (String × Value))
  deriving Inhabited

end CwebHighlight.Toml
