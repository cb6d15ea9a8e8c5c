import FixtureProbe.Proofs.Precompile.EntryOrder

/-!
# The built-in interface

The built-in interface is described by a text like any other one. Loading that text gives the interface
that the theory speaks of.
-/

namespace FixtureProbe
namespace Interface

open Abi (Function)

theorem toList_embeddedText :
    embeddedText.toList = ['\n'].intercalate (embeddedLines.map String.toList) :=
  String.toList_intercalate

/-- The functions in the order in which the built-in text describes them. -/
def describedFunctions : List Function :=
  [embedded.getMatch, embedded.getLeague, embedded.getTeam, embedded.getUnfinishedMatches]

set_option maxRecDepth 100000 in
theorem functions_embeddedText :
    (Json.parse? embeddedText).bind Abi.Description.functions? = some describedFunctions := by
  rw [Json.parse?, toList_embeddedText]
  decide +kernel

theorem sortByName_describedFunctions :
    Abi.Description.sortByName describedFunctions = embedded.functions := by
  have hnames : embedded.getLeague.name ≠ embedded.getMatch.name := by decide
  have hswapped : Abi.Description.sortByName describedFunctions =
      Abi.Description.sortByName embedded.functions :=
    Abi.Description.sortByName_eq_of_overloads_eq (Abi.Description.filter_swap hnames _)
  rw [hswapped]
  exact List.mergeSort_of_pairwise (by decide)

theorem load_embeddedText : load embeddedText = .ok embedded :=
  load_of_functions functions_embeddedText sortByName_describedFunctions

end Interface
end FixtureProbe
