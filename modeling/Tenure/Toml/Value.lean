/-!
# TOML values

What a TOML document can hold. Of floating-point numbers and moments in time only that they
are there is kept.
-/
namespace Tenure.Toml

inductive Value where
  | text (s : String)
  | integer (n : Int)
  | floating
  | bool (b : Bool)
  /-- A date, a time of day, or both. -/
  | moment
  | array (items : List Value)
  | table (members : List (String × Value))

end Tenure.Toml
