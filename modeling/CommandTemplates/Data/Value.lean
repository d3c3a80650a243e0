/-
Data without types of its own: what settings files and JSON texts hold.
-/

namespace CommandTemplates

/-- A tree of data. -/
inductive Value where
  | null
  | bool (b : Bool)
  | integer (n : Int)
  | float (x : Float)
  | text (s : String)
  /-- A date, a time of day or both, in its standard form. -/
  | datetime (s : String)
  | list (items : List Value)
  | table (entries : List (String × Value))
  deriving Inhabited, Repr

namespace Value

/-- The value at a key of a list of entries. -/
def field? (key : String) (entries : List (String × Value)) : Option Value :=
  (entries.find? fun e => e.1 = key).map Prod.snd

/-- The entries with a value at a key: in place of an earlier one, or at the end. -/
def setField (key : String) (value : Value) : List (String × Value) → List (String × Value)
  | [] => [(key, value)]
  | (k, v) :: rest => if k = key then (key, value) :: rest else (k, v) :: setField key value rest

/-- The single key of the table that a date or time is when only tables can be written. -/
def datetimeKey : String := "$__toml_private_datetime"

end Value

end CommandTemplates
