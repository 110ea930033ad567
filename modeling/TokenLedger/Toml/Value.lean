/-
TOML values. Of a number that is no integer, and of a date or a time, only the kind is kept, since
nothing that is read from such a document takes one.
-/

namespace TokenLedger.Toml

/-- A TOML value. -/
inductive Value where
  | text (content : String)
  | integer (value : Int)
  | bool (value : Bool)
  | float
  | moment
  | array (items : List Value)
  | table (members : List (String × Value))
  deriving Inhabited

end TokenLedger.Toml
