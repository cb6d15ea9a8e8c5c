import FixtureProbe.Command.Program
import FixtureProbe.Proofs.Settings.Files

/-!
# Settings in layers

Each setting is taken on its own: from what overrides the settings file, else from the file, else it
is built in. What the other settings are and in which order they stand in the file has no part in
this.
-/

namespace FixtureProbe

open Toml

/-!
# Layers
-/

/-- Where a setting comes from: from what overrides the file, else from the file, else it is built
in. -/
inductive ComesFrom {α : Type} : (override file builtIn : Option α) -> Option α -> Prop where
  | override (a : α) (file builtIn : Option α) : ComesFrom (some a) file builtIn (some a)
  | file (a : α) (builtIn : Option α) : ComesFrom none (some a) builtIn (some a)
  | builtIn (setting : Option α) : ComesFrom none none setting setting

/-- Settings that come from a file and from what overrides it. -/
structure Layered (file overrides : SettingsLayer) (settings : Settings) : Prop where
  rpcUrl : ComesFrom overrides.rpcUrl file.rpcUrl (some "http://localhost:8545")
    (some settings.rpcUrl)
  precompileAddress : ComesFrom overrides.precompileAddress file.precompileAddress
    (some "0x0000000000000000000000000000000000000807") (some settings.precompileAddress)
  abiPath : ComesFrom overrides.abiPath file.abiPath none settings.abiPath
  iterations : ComesFrom overrides.iterations file.iterations (some 10)
    (some settings.iterations)

theorem comesFrom_or {α : Type} (override file builtIn : Option α) :
    ComesFrom override file builtIn ((override <|> file).or builtIn) := by
  cases override with
  | some a => exact .override a file builtIn
  | none =>
      cases file with
      | some a => exact .file a builtIn
      | none => exact .builtIn builtIn

theorem comesFrom_getD {α : Type} (override file : Option α) (a : α) :
    ComesFrom override file (some a) (some ((override <|> file).getD a)) := by
  rw [← Option.or_some]
  exact comesFrom_or override file (some a)

theorem layered_resolve (file overrides : SettingsLayer) :
    Layered file overrides (Settings.resolve file overrides) where
  rpcUrl := comesFrom_getD _ _ _
  precompileAddress := comesFrom_getD _ _ _
  abiPath := by
    have hfrom := comesFrom_or overrides.abiPath file.abiPath none
    rwa [Option.or_none] at hfrom
  iterations := comesFrom_getD _ _ _

/-!
# From files to settings
-/

namespace Program

theorem settings_of_ofToml {document : String} {layer : SettingsLayer}
    (h : SettingsLayer.ofToml document = .ok layer) (arguments : Arguments) :
    settings arguments (some (.ok document)) = .ok (.resolve layer arguments.overrides) := by
  unfold settings
  dsimp only
  rw [h]
  rfl

theorem settings_of_error {document : String} {error : SettingsLayer.FileError}
    (h : SettingsLayer.ofToml document = .error error) (arguments : Arguments) :
    settings arguments (some (.ok document)) =
      .error ("Invalid config: " ++ error.text document) := by
  unfold settings
  dsimp only
  rw [h]
  rfl

end Program

/-- Any settings can be written in any order. A file in which they are written gives them, whatever
their order and their spelling are, and each of them is put between its own override and its own
default. A spoiled file gives no settings at all. -/
theorem settings_layered :
    (forall order : List Setting, exists document, Setting.Lists order document) ∧
    (forall (layer : SettingsLayer) (document : String), layer.WrittenAs document ->
      forall overrides, exists settings,
        (SettingsLayer.ofToml document).map (Settings.resolve · overrides) = .ok settings ∧
          Layered layer overrides settings ∧
            forall arguments : Arguments, arguments.overrides = overrides ->
              Program.settings arguments (some (.ok document)) = .ok settings) ∧
    (forall document, SettingsLayer.Spoiled document ->
      (exists error, SettingsLayer.ofToml document = .error error) ∧
        forall arguments, exists reason,
          Program.settings arguments (some (.ok document)) = .error reason) := by
  refine ⟨?_, ?_, ?_⟩
  · intro order
    exact ⟨_, Setting.lists_document order⟩
  · intro layer document hwritten overrides
    have hfile := SettingsLayer.ofToml_of_writtenAs hwritten
    refine ⟨.resolve layer overrides, ?_, layered_resolve layer overrides, ?_⟩
    · rw [hfile]
      rfl
    · rintro arguments rfl
      exact Program.settings_of_ofToml hfile arguments
  · intro document hspoiled
    rcases SettingsLayer.error_of_spoiled hspoiled with ⟨error, herror⟩
    exact ⟨⟨error, herror⟩, fun arguments => ⟨_, Program.settings_of_error herror arguments⟩⟩

theorem settings_layered_quoted :
    (exists settings,
      (SettingsLayer.ofToml ("iterations = 4294967295\nprecompile_address = \"\"\n" ++
        "rpc_url = \"say \\\"é\\\" \\\\ \\u0001\"\n")).map
          (Settings.resolve · ⟨none, some "0x0", some "abi.json", none⟩) = .ok settings ∧
        Layered ⟨some "say \"é\" \\ \x01", some "", none, some 4294967295⟩
          ⟨none, some "0x0", some "abi.json", none⟩ settings) ∧
    (exists error, SettingsLayer.ofToml "abi_path = \"a\"\nchain = 1" = .error error) ∧
    (exists error, SettingsLayer.ofToml "abi_path = \"a\"\nabi_path = \"b\"" = .error error) ∧
    (exists error, SettingsLayer.ofToml "iterations = 4294967296" = .error error) := by
  have hrows (rest : List Char) := (Setting.rows_lines [.abiPath "a"] rest).imp
    fun _ _ _ hcs => hcs.standsFor
  refine ⟨?_, ?_, ?_, ?_⟩
  · have hwritten : SettingsLayer.WrittenAs
        ⟨some "say \"é\" \\ \x01", some "", none, some 4294967295⟩ _ :=
      ⟨_, List.reverse_perm _, Setting.lists_document [.iterations 4294967295,
        .precompileAddress "", .rpcUrl "say \"é\" \\ \x01"]⟩
    have hdocument : Setting.document [.iterations 4294967295, .precompileAddress "",
        .rpcUrl "say \"é\" \\ \x01"] = "iterations = 4294967295\nprecompile_address = \"\"\n" ++
          "rpc_url = \"say \\\"é\\\" \\\\ \\u0001\"\n" := by
      decide +kernel
    rw [hdocument] at hwritten
    rcases settings_layered.2.1 _ _ hwritten ⟨none, some "0x0", some "abi.json", none⟩ with
      ⟨settings, hsettings, hlayered, -⟩
    exact ⟨settings, hsettings, hlayered⟩
  · have hname : SpellsName "chain" "chain".toList := spellsName_toList (by simp) (by simp)
    have hrest := Begins.pair blanks_nil hname blanks_space (Or.inl rfl) " 1".toList
    have hkey : forall setting : Setting, setting.key ≠ "chain" := by
      rintro (_ | _ | _ | _) <;> simp [Setting.key]
    exact (settings_layered.2.2 _ (.unknown (Or.inl (by decide +kernel)) (hrows _) hkey hrest)).1
  · have hname := (Setting.abiPath "b").spellsName_key
    have hrest := Begins.pair blanks_nil hname blanks_space (Or.inl rfl) " \"b\"".toList
    exact (settings_layered.2.2 _ (.repeated (Or.inl (by decide +kernel)) (hrows _)
      List.mem_cons_self hrest)).1
  · have hname := (Setting.iterations 0).spellsName_key
    have hvalue := Spells.integer (spellsInteger_toDigits 4294967296)
    have hrow := Row.pair blanks_nil hname blanks_space blanks_space hvalue
      (EndsLine.last blanks_nil .none)
    exact (settings_layered.2.2 _ (SettingsLayer.spoiled_of_integer (Or.inl (by decide +kernel))
      (.cons (List.cons_ne_nil _ _) hrow (.nil [])) List.mem_cons_self (Or.inr (by decide)))).1

end FixtureProbe
