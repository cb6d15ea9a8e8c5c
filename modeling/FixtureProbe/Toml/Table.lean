import FixtureProbe.Toml.Failure

/-!
# Tables from statements

A document is a list of statements. A pair stands under the last header before it; its dotted keys
may open tables, but never one that has a header of its own. A header defines a table that was at
most implied before, or adds one more table to those of the same name.
-/

namespace FixtureProbe
namespace Toml

/-!
# Entries
-/

namespace Table

def replace (entries : Table) (key : String) (value : Toml) : Table :=
  entries.map fun entry => if entry.1 = key then (key, value) else entry

def changeLast (change : Table -> Except Cause Table) (tables : List Table) :
    Except Cause (List Table) := do
  return tables.dropLast ++ [← change (tables.getLast?.getD [])]

/-- Adds a value under a key that is new to the table with a given path. -/
def add (table : Option (List String)) (key : String) (value : Toml) (entries : Table) :
    Except Cause Table :=
  if (entries.lookup key).isSome then .error (.repeated key table)
  else .ok (entries ++ [(key, value)])

/--
Adds a value where dotted keys lead. The last table on the way must have been opened by dotted keys
too; the way there may also lead through tables that are only implied. `passed` are the keys passed
so far, and `isInline` tells whether all of this stands between braces.
-/
def insert (isInline : Bool) (table : Option (List String)) (key : String) (value : Toml) :
    (passed path : List String) -> Table -> Except Cause Table
  | _, [], entries => add table key value entries
  | passed, name :: path, entries => do
      let more := insert isInline table key value (passed ++ [name]) path
      match entries.lookup name with
      | none => return entries ++ [(name, .table .dotted (← more []))]
      | some (.table .dotted inner) =>
          return entries.replace name (.table .dotted (← more inner))
      | some (.table .implied inner) =>
          if path = [] then throw (.repeated key none)
          return entries.replace name (.table .implied (← more inner))
      | some (.tables elements) =>
          if path = [] then throw (.repeated key none)
          return entries.replace name (.tables (← changeLast more elements))
      | some (.table .header _) => throw (.repeated name none)
      | some value =>
          match isInline, value with
          | true, .table .inline _ => throw (.repeated name none)
          | _, value => throw (.noTable (passed ++ [name]) value.kind)

def ofPairs (pairs : List ((List String × String) × Toml)) : Except Cause Table :=
  pairs.foldlM (fun entries ((path, key), value) => insert true none key value [] path entries) []

/-!
# Headers
-/

/-- Changes the table to which the names of a header lead; missing tables on the way are implied. -/
def within (change : Table -> Except Cause Table) :
    (passed path : List String) -> Table -> Except Cause Table
  | _, [], entries => change entries
  | passed, name :: path, entries => do
      let more := within change (passed ++ [name]) path
      match entries.lookup name with
      | none => return entries ++ [(name, .table .implied (← more []))]
      | some (.table .inline _) => throw (.noTable (passed ++ [name]) "inline table")
      | some (.table origin inner) =>
          return entries.replace name (.table origin (← more inner))
      | some (.tables elements) =>
          return entries.replace name (.tables (← changeLast more elements))
      | some value => throw (.noTable (passed ++ [name]) value.kind)

def taken (path : List String) (key : String) : Cause :=
  .repeated (Cause.keyText key) (some path)

/-- Defines a table; one that was implied keeps its entries and takes its place at the end. -/
def define (path : List String) (key : String) (entries : Table) : Except Cause Table :=
  match entries.lookup key with
  | none => .ok (entries ++ [(key, .table .header [])])
  | some (.table .implied inner) =>
      .ok (entries.filter (·.1 ≠ key) ++ [(key, .table .header inner)])
  | some _ => .error (taken path key)

def addElement (path : List String) (key : String) (entries : Table) : Except Cause Table :=
  match entries.lookup key with
  | none => .ok (entries ++ [(key, .tables [[]])])
  | some (.tables elements) => .ok (entries.replace key (.tables (elements ++ [[]])))
  | some _ => .error (taken path key)

def addPair (current path : List String) (key : String) (value : Toml) (entries : Table) :
    Except Cause Table :=
  within (insert false (some current) key value [] path) [] current entries

def addHeader (path : List String) (key : String) (entries : Table) : Except Cause Table :=
  within (define path key) [] path entries

def addElementHeader (path : List String) (key : String) (entries : Table) :
    Except Cause Table :=
  within (addElement path key) [] path entries

end Table

end Toml
end FixtureProbe
