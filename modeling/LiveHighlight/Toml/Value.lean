/-!
Values of TOML documents.

A float or a date-time is known by its text alone.
-/

namespace LiveHighlight.Toml

inductive Value where
  | string (text : String)
  | integer (number : Int)
  | float (text : String)
  | boolean (isTrue : Bool)
  | moment (text : String)
  | array (items : List Value)
  | table (entries : List (String × Value))
  deriving Repr

end LiveHighlight.Toml
