import FixtureProbe.Proofs.Toml.Rows
import FixtureProbe.Settings

/-!
# Settings files

A settings file gives any of the four settings, in any order and in any spelling. It is refused as a
whole if it has a key that is no setting, if a key comes twice, or if its number of iterations does
not fit into 32 bits.
-/

namespace FixtureProbe

open Toml

/-- A setting in a file. -/
inductive Setting where
  | rpcUrl (url : String)
  | precompileAddress (address : String)
  | abiPath (path : String)
  | iterations (n : UInt32)

namespace Setting

def key : Setting -> String
  | rpcUrl _ => "rpc_url"
  | precompileAddress _ => "precompile_address"
  | abiPath _ => "abi_path"
  | iterations _ => "iterations"

def value : Setting -> Toml
  | rpcUrl s | precompileAddress s | abiPath s => .string s
  | iterations n => .integer n.toNat

def entry (setting : Setting) : String × Toml :=
  (setting.key, setting.value)

/-- A layer to which a setting is added. -/
def put (layer : SettingsLayer) : Setting -> SettingsLayer
  | rpcUrl url => { layer with rpcUrl := some url }
  | precompileAddress address => { layer with precompileAddress := some address }
  | abiPath path => { layer with abiPath := some path }
  | iterations n => { layer with iterations := some n }

/-- A document with settings one after another; between them may stand comments and empty rows. -/
def Lists (order : List Setting) (document : String) : Prop :=
  exists text, IsBody document text ∧ Rows Spells (order.map entry) text []

theorem put_comm {setting other : Setting} (h : setting.key ≠ other.key) (layer : SettingsLayer) :
    put (put layer setting) other = put (put layer other) setting := by
  cases setting <;> cases other
  all_goals first | rfl | exact absurd rfl h

theorem exists_of_key {setting : Setting} (h : setting.key = "iterations") :
    exists n, setting = iterations n := by
  cases setting with
  | iterations n => exact ⟨n, rfl⟩
  | rpcUrl | precompileAddress | abiPath => simp [key] at h

theorem readsAs_of_spells {setting : Setting} {cs : List Char} (h : Spells setting.value cs) :
    ReadsAs setting.value cs := by
  cases setting with
  | iterations n =>
      cases h with
      | integer h =>
          have hn := n.toNat_lt_size
          have hsize : UInt32.size = 4294967296 := rfl
          have hbound : UInt64.size / 2 = 9223372036854775808 := rfl
          refine readsAs_integer h ?_
          unfold InRange
          omega
  | rpcUrl | precompileAddress | abiPath =>
      cases h with
      | string h => exact readsAs_string h

end Setting

namespace SettingsLayer

open Setting (put)

/-!
# Layers that are written in a file
-/

/-- The settings that a layer gives. -/
def given (layer : SettingsLayer) : List Setting :=
  (layer.rpcUrl.map Setting.rpcUrl).toList ++
    ((layer.precompileAddress.map Setting.precompileAddress).toList ++
      ((layer.abiPath.map Setting.abiPath).toList ++
        (layer.iterations.map Setting.iterations).toList))

/-- A document in which the settings of a layer are written, in some order. -/
def WrittenAs (layer : SettingsLayer) (document : String) : Prop :=
  exists order : List Setting, order.Perm layer.given ∧ Setting.Lists order document

theorem nodup_given (layer : SettingsLayer) : (layer.given.map Setting.key).Nodup := by
  rcases layer with ⟨_ | _, _ | _, _ | _, _ | _⟩ <;> simp [given, Setting.key]

theorem foldl_put_given (layer : SettingsLayer) : layer.given.foldl put {} = layer := by
  rcases layer with ⟨_ | _, _ | _, _ | _, _ | _⟩ <;> rfl

/-- The order in which settings are written does not matter. -/
theorem foldl_put_of_perm {layer : SettingsLayer} {order : List Setting}
    (h : order.Perm layer.given) : order.foldl put {} = layer := by
  have hnodup : (order.map Setting.key).Nodup :=
    (h.map Setting.key).nodup_iff.mpr layer.nodup_given
  have hcomm : forall setting, setting ∈ order -> forall other, other ∈ order ->
      forall layer, put (put layer setting) other = put (put layer other) setting := by
    intro setting hsetting other hother layer
    -- No key comes twice, so two settings with one key are the same setting.
    by_cases hkey : setting.key = other.key
    · rw [List.inj_on_of_nodup_map hnodup hsetting hother hkey]
    · exact Setting.put_comm hkey layer
  rw [h.foldl_eq' hcomm, foldl_put_given]

theorem asIterations_toNat (n : UInt32) : asIterations (.integer n.toNat) = .ok n := by
  have hfits : (0 : Int) ≤ n.toNat ∧ (n.toNat : Int) < UInt32.size :=
    ⟨Int.natCast_nonneg _, Int.ofNat_lt.mpr n.toNat_lt_size⟩
  rw [asIterations, if_pos hfits, Int.toNat_natCast, UInt32.ofNat_toNat]

theorem set_entry (layer : SettingsLayer) (setting : Setting) :
    layer.set setting.key setting.value = .ok (put layer setting) := by
  cases setting with
  | rpcUrl => rfl
  | precompileAddress => rfl
  | abiPath => rfl
  | iterations n =>
      change (asIterations (.integer n.toNat) >>= _) = _
      rw [asIterations_toNat]
      rfl

theorem ofDocument_entries (statements : List Statement) (order : List Setting) :
    ofDocument ⟨statements, order.map Setting.entry⟩ = .ok (order.foldl put {}) := by
  unfold ofDocument
  simp only [List.foldlM_map, Setting.entry, set_entry, Except.mapError]
  exact List.foldlM_pure

/-- A layer that is written is read back. -/
theorem ofToml_of_writtenAs {layer : SettingsLayer} {document : String}
    (h : layer.WrittenAs document) : ofToml document = .ok layer := by
  rcases h with ⟨order, horder, text, hbody, hrows⟩
  have hreads : Rows ReadsAs (order.map Setting.entry) text [] := by
    refine hrows.imp ?_
    intro entry hentry cs hcs
    rcases List.mem_map.mp hentry with ⟨setting, -, rfl⟩
    exact Setting.readsAs_of_spells hcs
  have hnodup : ((order.map Setting.entry).map Prod.fst).Nodup := by
    rw [List.map_map]
    exact (horder.map Setting.key).nodup_iff.mpr layer.nodup_given
  rcases parse_rows hbody hreads hnodup with ⟨statements, hparse⟩
  rw [ofToml, hparse]
  dsimp only
  rw [ofDocument_entries, foldl_put_of_perm horder]

/-!
# Files that are refused
-/

/-- A document with an entry that spoils it. In front of the entry stand rows with values of any
kind, and what stands behind it is left open. -/
inductive Spoiled (document : String) : Prop where
  | unknown {entries : List (String × Toml)} {key : String} {text rest : List Char}
      (hbody : IsBody document text) (hrows : Rows StandsFor entries text rest)
      (hkey : forall setting : Setting, setting.key ≠ key) (hrest : Begins key rest)
  | repeated {entries : List (String × Toml)} {key : String} {text rest : List Char}
      (hbody : IsBody document text) (hrows : Rows StandsFor entries text rest)
      (hkey : key ∈ entries.map Prod.fst) (hrest : Begins key rest)
  /-- A value that is none of the numbers that fit. -/
  | unfit {entries : List (String × Toml)} {value : Toml} {text rest : List Char}
      (hbody : IsBody document text) (hrows : Rows StandsFor entries text rest)
      (hentry : ("iterations", value) ∈ entries)
      (hvalue : forall n : UInt32, value ≠ .integer n.toNat)

theorem integer_ne_toNat {n : Int} (h : n < 0 ∨ UInt32.size ≤ n) (m : UInt32) :
    Toml.integer n ≠ .integer m.toNat := by
  intro heq
  have hm := m.toNat_lt_size
  have hn := Toml.integer.inj heq
  omega

/-- In whatever spelling, a number that does not fit spoils a document. -/
theorem spoiled_of_integer {document : String} {entries : List (String × Toml)}
    {text rest : List Char} {n : Int} (hbody : IsBody document text)
    (hrows : Rows Spells entries text rest) (hentry : ("iterations", .integer n) ∈ entries)
    (h : n < 0 ∨ UInt32.size ≤ n) : Spoiled document :=
  .unfit hbody (hrows.imp fun _ _ _ hcs => hcs.standsFor) hentry (integer_ne_toNat h)

theorem eq_of_asText {wanted s : String} {value : Toml} (h : asText wanted value = .ok s) :
    value = .string s := by
  unfold asText at h
  split at h
  · cases h
    rfl
  · cases h

theorem eq_of_asIterations {n : UInt32} {value : Toml} (h : asIterations value = .ok n) :
    value = .integer n.toNat := by
  unfold asIterations at h
  split at h
  · next m =>
    split_ifs at h with hfits
    have hlt : m.toNat < UInt32.size := by omega
    cases h
    rw [UInt32.toNat_ofNat_of_lt' hlt, Int.toNat_of_nonneg hfits.1]
  · cases h

/-- Only settings are taken over. -/
theorem exists_of_set {before after : SettingsLayer} {key : String} {value : Toml}
    (h : before.set key value = .ok after) :
    exists setting : Setting, setting.key = key ∧ setting.value = value := by
  unfold set at h
  split at h
  · rcases exists_of_bind h with ⟨s, hvalue, -⟩
    exact ⟨.rpcUrl s, rfl, (eq_of_asText hvalue).symm⟩
  · rcases exists_of_bind h with ⟨s, hvalue, -⟩
    exact ⟨.precompileAddress s, rfl, (eq_of_asText hvalue).symm⟩
  · rcases exists_of_bind h with ⟨s, hvalue, -⟩
    exact ⟨.abiPath s, rfl, (eq_of_asText hvalue).symm⟩
  · rcases exists_of_bind h with ⟨n, hvalue, -⟩
    exact ⟨.iterations n, rfl, (eq_of_asIterations hvalue).symm⟩
  · cases h

/-- A file that is accepted holds nothing but settings. -/
theorem exists_of_ofToml {document : String} {layer : SettingsLayer}
    (h : ofToml document = .ok layer) :
    exists parsed, parse document = .ok parsed ∧
      forall key value, parsed.table.lookup key = some value ->
        exists setting : Setting, setting.key = key ∧ setting.value = value := by
  unfold ofToml at h
  split at h
  · next parsed hparse =>
    refine ⟨parsed, hparse, ?_⟩
    intro key value hvalue
    rcases exists_of_foldlM h (Table.mem_of_lookup hvalue) with ⟨before, after, hset⟩
    exact exists_of_set (eq_ok_of_mapError hset)
  · cases h

theorem error_of_spoiled {document : String} (h : Spoiled document) :
    exists error, ofToml document = .error error := by
  cases hlayer : ofToml document with
  | error error => exact ⟨error, rfl⟩
  | ok layer =>
      rcases exists_of_ofToml hlayer with ⟨parsed, hparse, hsettings⟩
      exfalso
      cases h with
      | unknown hbody hrows hkey hrest =>
          rcases exists_of_parse hbody hrows (fun _ => hrest.unmarked) hparse with
            ⟨-, -, fuel, document', hread, htable⟩
          rcases adds_of_begins hrest hread with ⟨after, hadds, hgrows⟩
          have hpresent := hgrows.isSome hadds.present
          rw [htable] at hpresent
          rcases Option.isSome_iff_exists.mp hpresent with ⟨value, hvalue⟩
          -- Whatever stands behind the unknown key, the document still has it at the end.
          rcases hsettings _ value hvalue with ⟨setting, hsetting, -⟩
          exact hkey setting hsetting
      | @repeated entries key text rest hbody hrows hkey hrest =>
          rcases exists_of_parse hbody hrows (fun _ => hrest.unmarked) hparse with
            ⟨-, hclosed, fuel, document', hread, -⟩
          rcases adds_of_begins hrest hread with ⟨after, hadds, -⟩
          cases hvalue : entries.lookup key with
          | none => exact Table.lookup_eq_none_iff.mp hvalue hkey
          | some value =>
              exact hadds.free value hvalue (hclosed _ (Table.mem_of_lookup hvalue))
      | @unfit entries value text rest hbody hrows hentry hvalue =>
          have hrest : entries = [] -> Unmarked rest := by
            rintro rfl
            cases hentry
          rcases exists_of_parse hbody hrows hrest hparse with
            ⟨hnodup, hclosed, fuel, document', hread, htable⟩
          rcases grows_of_readStatements hread _ _ (Table.lookup_of_mem hnodup hentry) with
            ⟨value', hvalue', hsame⟩
          rw [hsame (hclosed _ hentry), htable] at hvalue'
          rcases hsettings _ value hvalue' with ⟨setting, hsetting, rfl⟩
          rcases Setting.exists_of_key hsetting with ⟨n, rfl⟩
          exact hvalue n rfl

end SettingsLayer

/-!
# Files that are made
-/

namespace Setting

/-- The text of a value; what cannot stand between double quotes is escaped. -/
def written : Setting -> List Char
  | rpcUrl s | precompileAddress s | abiPath s =>
      '"' :: (s.toList.flatMap Cause.escaped ++ ['"'])
  | iterations n => Nat.toDigits 10 n.toNat

def line (setting : Setting) : List Char :=
  setting.key.toList ++ ([' '] ++ '=' :: ([' '] ++ (setting.written ++ ['\n'])))

/-- A document with a line for each setting. -/
def document (order : List Setting) : String :=
  String.ofList (order.flatMap line)

theorem spells_written (setting : Setting) : Spells setting.value setting.written := by
  cases setting with
  | iterations n => exact .integer (spellsInteger_toDigits n.toNat)
  | rpcUrl s | precompileAddress s | abiPath s => exact .string (spellsChars_escaped s.toList)

theorem spellsName_key (setting : Setting) : SpellsName setting.key setting.key.toList := by
  cases setting with
  | rpcUrl | precompileAddress | abiPath | iterations =>
      exact spellsName_toList (by simp [key]) (by simp [key])

theorem row_line (setting : Setting) (rest : List Char) :
    Row Spells (some setting.entry) (setting.line ++ rest) rest := by
  have hend : EndsLine ('\n' :: rest) rest :=
    .broken blanks_nil .none (Or.inl rfl) rest
  have hrow := Row.pair blanks_nil setting.spellsName_key blanks_space blanks_space
    setting.spells_written hend
  simpa [line, entry] using hrow

/-- Lines of settings are rows, whatever stands behind them. -/
theorem rows_lines (order : List Setting) (rest : List Char) :
    Rows Spells (order.map entry) (order.flatMap line ++ rest) rest := by
  induction order with
  | nil => exact .nil rest
  | cons setting order ih =>
      have hne : setting.line ++ (order.flatMap line ++ rest) ≠ [] := by
        simp [line]
      have hrows := Rows.cons hne (setting.row_line _) ih
      rwa [← List.append_assoc] at hrows

theorem lists_document (order : List Setting) : Lists order (document order) := by
  have hrows := rows_lines order []
  rw [List.append_nil] at hrows
  exact ⟨order.flatMap line, Or.inl String.toList_ofList, hrows⟩

end Setting

end FixtureProbe
