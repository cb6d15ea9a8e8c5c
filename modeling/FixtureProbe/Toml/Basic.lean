/-!
# TOML values

Tables keep their entries in the order in which they were defined. A table also knows how it came to
be, because that decides how it may still grow.
-/

namespace FixtureProbe

inductive TableOrigin where
  | header
  /-- On the way to a table with a longer header. -/
  | implied
  /-- On the way along dotted keys. -/
  | dotted
  | inline
  deriving DecidableEq

/-- A TOML value. What a date or a time says is not kept. -/
inductive Toml where
  | string (s : String)
  | integer (n : Int)
  | float (x : Float)
  | boolean (b : Bool)
  | dateTime
  | array (items : List Toml)
  | table (origin : TableOrigin) (entries : List (String × Toml))
  /-- The tables that were added one by one under the same name. -/
  | tables (elements : List (List (String × Toml)))

namespace Toml

abbrev Table := List (String × Toml)

def kind : Toml -> String
  | .string _ => "string"
  | .integer _ => "integer"
  | .float _ => "float"
  | .boolean _ => "boolean"
  | .dateTime => "datetime"
  | .array _ => "array"
  | .table .inline _ => "inline table"
  | .table _ _ => "table"
  | .tables _ => "array of tables"

end Toml

end FixtureProbe
