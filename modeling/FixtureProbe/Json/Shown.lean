import FixtureProbe.Json.Text
import FixtureProbe.Text.Quoted

/-!
# JSON values in diagnostics

A value is shown with the name of its kind. The members of an object are shown in the order of their
names; of members of one name the last one counts.
-/

namespace FixtureProbe
namespace Json

/-- Members by name, in the order of the names, the last one of each name. -/
def sortMembers (members : List (String × α)) : List (String × α) :=
  let latest := members.foldl (fun kept m => kept.filter (·.1 ≠ m.1) ++ [m]) []
  latest.mergeSort fun a b => a.1 ≤ b.1

mutual

def shown : Json -> String
  | .null => "Null"
  | .bool b => "Bool(" ++ (if b then "true" else "false") ++ ")"
  | .number n => "Number(" ++ numberText n ++ ")"
  | .string s => "String(" ++ Quoted.quote s ++ ")"
  | .array items => "Array [" ++ String.intercalate ", " (shownItems items) ++ "]"
  | .object members =>
      "Object \x7b" ++ String.intercalate ", " ((sortMembers (shownMembers members)).map fun m =>
        Quoted.quote m.1 ++ ": " ++ m.2) ++ "\x7d"

def shownItems : List Json -> List String
  | [] => []
  | item :: items => shown item :: shownItems items

def shownMembers : List (String × Json) -> List (String × String)
  | [] => []
  | (name, value) :: members => (name, shown value) :: shownMembers members

end

end Json
end FixtureProbe
