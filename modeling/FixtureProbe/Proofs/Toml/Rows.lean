import FixtureProbe.Proofs.Toml.Statements
import Mathlib.Data.List.Nodup

/-!
# Documents row by row

A document without headers is a list of rows: each of them is empty or assigns a value to a key, and a
comment may follow. Such a document is read as the table of its assignments, if no key is assigned
twice. Whatever stands behind some rows, it is read only if these rows are, it leaves their entries as
they are, and it cannot begin with one of their keys again.
-/

namespace FixtureProbe
namespace Toml

open Strings (skipBlanks)

/-!
# Rows
-/

section Grammar

variable (Value : Toml -> List Char -> Prop)

/-- A row with what stands behind it: an empty one, or a key to which a value is assigned. -/
inductive Row : Option (String × Toml) -> (text rest : List Char) -> Prop where
  | blank {text rest : List Char} (h : EndsLine text rest) : Row none text rest
  | pair {key : String} {value : Toml} {left name before after cs tail rest : List Char}
      (hleft : Blanks left) (hname : SpellsName key name) (hbefore : Blanks before)
      (hafter : Blanks after) (hvalue : Value value cs) (hend : EndsLine tail rest) :
      Row (some (key, value))
        (left ++ (name ++ (before ++ '=' :: (after ++ (cs ++ tail))))) rest

/-- Rows one after another, with their entries and with what stands behind them. -/
inductive Rows : List (String × Toml) -> (text rest : List Char) -> Prop where
  | nil (text : List Char) : Rows [] text text
  | cons {entry : Option (String × Toml)} {entries : List (String × Toml)}
      {text middle rest : List Char} (hne : text ≠ []) (h : Row Value entry text middle)
      (hothers : Rows entries middle rest) : Rows (entry.toList ++ entries) text rest

end Grammar

/-- A text that begins an entry: its key begins with a name, and all that follows is left open. -/
inductive Begins (key : String) : List Char -> Prop where
  | pair {left name blanks : List Char} {mark : Char} (hleft : Blanks left)
      (hname : SpellsName key name) (hblanks : Blanks blanks) (hmark : mark = '=' ∨ mark = '.')
      (rest : List Char) : Begins key (left ++ (name ++ (blanks ++ mark :: rest)))
  | header {left opening inner name blanks : List Char} {mark : Char} (hleft : Blanks left)
      (hopening : opening = ['['] ∨ opening = ['[', '[']) (hinner : Blanks inner)
      (hname : SpellsName key name) (hblanks : Blanks blanks) (hmark : mark = ']' ∨ mark = '.')
      (rest : List Char) :
      Begins key (left ++ (opening ++ (inner ++ (name ++ (blanks ++ mark :: rest)))))

theorem EndsLine.length_lt {text rest : List Char} (h : EndsLine text rest) (hne : text ≠ []) :
    rest.length < text.length := by
  cases h with
  | broken _ _ hending =>
      simp only [List.length_append]
      rcases hending with rfl | rfl <;> simp <;> omega
  | last => exact List.length_pos_of_ne_nil hne

theorem EndsLine.length_le {text rest : List Char} (h : EndsLine text rest) :
    rest.length ≤ text.length := by
  by_cases hne : text = []
  · cases h with
    | broken => simp at hne; simp [hne]
    | last => exact Nat.zero_le _
  · exact Nat.le_of_lt (h.length_lt hne)

theorem Row.length_lt {Value : Toml -> List Char -> Prop} {entry : Option (String × Toml)}
    {text rest : List Char} (h : Row Value entry text rest) (hne : text ≠ []) :
    rest.length < text.length := by
  cases h with
  | blank h => exact h.length_lt hne
  | pair _ _ _ _ _ hend =>
      have hle := hend.length_le
      simp only [List.length_append, List.length_cons]
      omega

theorem Rows.imp {Value Value' : Toml -> List Char -> Prop} {entries : List (String × Toml)}
    {text rest : List Char} (h : Rows Value entries text rest)
    (himp : forall entry, entry ∈ entries -> forall cs, Value entry.2 cs -> Value' entry.2 cs) :
    Rows Value' entries text rest := by
  induction h with
  | nil text => exact .nil text
  | cons hne hrow _ ih =>
      refine .cons hne ?_ (ih fun entry hentry => himp entry (List.mem_append_right _ hentry))
      cases hrow with
      | blank h => exact .blank h
      | pair hleft hname hbefore hafter hvalue hend =>
          have hvalue' := himp _ (List.mem_append_left _ List.mem_cons_self) _ hvalue
          exact .pair hleft hname hbefore hafter hvalue' hend

/-!
# Rows that are read
-/

/-- A document with more statements in front. -/
def Document.behind (statements : List Statement) (document : Document) : Document :=
  ⟨statements ++ document.statements, document.table⟩

theorem bind_behind (statement : Statement) (reading : Reading Document) :
    (do
      let document ← reading
      return { document with statements := statement :: document.statements }) =
      reading.map (Document.behind [statement]) := by
  cases reading <;> rfl

theorem map_behind_nil (reading : Reading Document) :
    reading.map (Document.behind []) = reading := by
  cases reading <;> rfl

theorem map_behind_behind (statements others : List Statement) (reading : Reading Document) :
    (reading.map (Document.behind others)).map (Document.behind statements) =
      reading.map (Document.behind (statements ++ others)) := by
  cases reading with
  | error failure => rfl
  | ok document => simp [Except.map, Document.behind]

/-- A row adds its entry, if the key of the entry is free. -/
theorem readStatements_row {entry : Option (String × Toml)} {text rest : List Char}
    (h : Row ReadsAs entry text rest) {fuel : Nat} (hfuel : 0 < fuel) {table : Table}
    (hfree : forall found, found ∈ entry -> table.lookup found.1 = none) :
    exists statements, readStatements (fuel + 1) table [] text =
      (readStatements fuel (table ++ entry.toList) [] rest).map (Document.behind statements) := by
  cases h with
  | blank h =>
      refine ⟨[], ?_⟩
      rw [readStatements_blank h hfuel, map_behind_nil, Option.toList_none, List.append_nil]
  | @pair key value left name before after cs tail rest hleft hname hbefore hafter hvalue hend =>
      have hkey := readKey_single blanks_nil hname hbefore (after ++ (cs ++ tail))
      rw [List.nil_append] at hkey
      have hpair := readPair_of_readKey hkey hafter (hvalue.begun.solid_append tail)
        (hvalue.reads tail hend.stops)
      have hextend := extendByPair_of_readPair hpair hend (hfree (key, value) rfl)
      have hread := readStatements_pair hleft hname fuel table []
        (before ++ '=' :: (after ++ (cs ++ tail)))
      rw [hextend, ok_bind] at hread
      exact ⟨_, hread.trans (bind_behind _ _)⟩

/-- Rows add their entries one after another, if no key comes twice. -/
theorem readStatements_rows {entries : List (String × Toml)} {text rest : List Char}
    (h : Rows ReadsAs entries text rest) {fuel : Nat} (hfuel : text.length < fuel) {table : Table}
    (hnodup : ((table ++ entries).map Prod.fst).Nodup) :
    exists statements fuel', rest.length < fuel' ∧ readStatements fuel table [] text =
      (readStatements fuel' (table ++ entries) [] rest).map (Document.behind statements) := by
  induction h generalizing fuel table with
  | nil text =>
      refine ⟨[], fuel, hfuel, ?_⟩
      rw [map_behind_nil, List.append_nil]
  | @cons entry entries text middle rest hne hrow _ ih =>
      have hshorter := hrow.length_lt hne
      rw [← List.append_assoc] at hnodup
      cases fuel with
      | zero => cases hfuel
      | succ fuel =>
          have hpos : 0 < fuel := by omega
          have hmiddle : middle.length < fuel := by omega
          have hfree : forall found, found ∈ entry -> table.lookup found.1 = none := by
            rintro found ⟨⟩
            rw [Table.lookup_eq_none_iff]
            intro hmem
            rw [List.append_assoc, List.map_append, List.nodup_append] at hnodup
            exact hnodup.2.2 _ hmem _ List.mem_cons_self rfl
          rcases readStatements_row hrow hpos hfree with ⟨statements, hread⟩
          rcases ih hmiddle hnodup with ⟨others, fuel', hfuel', hothers⟩
          refine ⟨statements ++ others, fuel', hfuel', ?_⟩
          rw [hread, hothers, map_behind_behind, List.append_assoc]

/-!
# Rows that have been read
-/

/-- If a text that begins with a row is read, the rest is read with the entry of the row. -/
theorem exists_of_row {entry : Option (String × Toml)} {text rest : List Char}
    (h : Row StandsFor entry text rest) {fuel : Nat} (hfuel : 0 < fuel) {table : Table}
    {document : Document} (hread : readStatements (fuel + 1) table [] text = .ok document) :
    (forall found, found ∈ entry -> table.lookup found.1 = none ∧ found.2.IsClosed) ∧
      exists document', readStatements fuel (table ++ entry.toList) [] rest = .ok document' ∧
        document'.table = document.table := by
  cases h with
  | blank h =>
      rw [readStatements_blank h hfuel] at hread
      rw [Option.toList_none, List.append_nil]
      exact ⟨fun _ hfound => (nomatch hfound), document, hread, rfl⟩
  | @pair key value left name before after cs tail rest hleft hname hbefore hafter hvalue hend =>
      rw [readStatements_pair hleft hname] at hread
      rcases exists_of_statement hread with
        ⟨extension, behind, document', hextend, hothers, htable⟩
      rcases exists_of_extendByPair hextend with
        ⟨names, placed, left', hpair, hend', hcurrent, hadd⟩
      have hkey := readKey_single blanks_nil hname hbefore (after ++ (cs ++ tail))
      rw [List.nil_append] at hkey
      rcases readValue_of_readPair hkey hpair with ⟨rfl, hplaced⟩
      rw [skipBlanks_append hafter (hvalue.begun.solid_append tail)] at hplaced
      have hclosed := isClosed_of_readValue hplaced
      rcases hvalue.unique tail placed.value left' hend.stops hplaced with ⟨rfl, rfl⟩
      rw [endStatement_eq hend] at hend'
      cases hend'
      have hfree : table.lookup key = none ∧ extension.table = table ++ [(key, placed.value)] :=
        Table.free_of_add hadd
      refine ⟨?_, document', ?_, htable⟩
      · rintro found ⟨⟩
        exact ⟨hfree.1, hclosed⟩
      · rw [hfree.2, hcurrent] at hothers
        exact hothers

/-- If a text that begins with rows is read, the rest is read with the entries of the rows; no key of
them comes twice, and no value of them is an open table. -/
theorem exists_of_rows {entries : List (String × Toml)} {text rest : List Char}
    (h : Rows StandsFor entries text rest) {fuel : Nat} (hfuel : text.length < fuel) {table : Table}
    (hnodup : (table.map Prod.fst).Nodup) {document : Document}
    (hread : readStatements fuel table [] text = .ok document) :
    ((table ++ entries).map Prod.fst).Nodup ∧ (forall found, found ∈ entries -> found.2.IsClosed) ∧
      exists fuel' document', readStatements fuel' (table ++ entries) [] rest = .ok document' ∧
        document'.table = document.table := by
  induction h generalizing fuel table document with
  | nil text =>
      rw [List.append_nil]
      exact ⟨hnodup, fun _ hfound => (nomatch hfound), fuel, document, hread, rfl⟩
  | @cons entry entries text middle rest hne hrow _ ih =>
      have hshorter := hrow.length_lt hne
      cases fuel with
      | zero => cases hfuel
      | succ fuel =>
          have hpos : 0 < fuel := by omega
          have hmiddle : middle.length < fuel := by omega
          rcases exists_of_row hrow hpos hread with ⟨hentry, document', hread', htable⟩
          have hmore : ((table ++ entry.toList).map Prod.fst).Nodup := by
            cases entry with
            | none => rwa [Option.toList_none, List.append_nil]
            | some found =>
                have hfree := Table.lookup_eq_none_iff.mp (hentry found rfl).1
                rw [Option.toList_some, List.map_append, List.map_singleton,
                  ← List.concat_eq_append]
                exact List.Nodup.concat hfree hnodup
          rcases ih hmiddle hmore hread' with
            ⟨hnodup', hothers, fuel', document'', hread'', htable'⟩
          rw [List.append_assoc] at hnodup' hread''
          refine ⟨hnodup', ?_, fuel', document'', hread'', htable'.trans htable⟩
          intro found hfound
          rcases List.mem_append.mp hfound with hfound | hfound
          · exact (hentry found (Option.mem_toList.mp hfound)).2
          · exact hothers found hfound

/-!
# What cannot stand behind rows
-/

/-- Between brackets stands no other bracket in front of the name. -/
theorem not_isPrefixOf_header {key : String} {inner name : List Char} (hinner : Blanks inner)
    (hname : SpellsName key name) (rest : List Char) :
    ¬ ['[', '['].isPrefixOf ('[' :: (inner ++ (name ++ rest))) = true := by
  cases inner with
  | nil =>
      rcases hname.cons_cases with ⟨c, cs, rfl, hc⟩
      have hne : c ≠ '[' := by
        rintro rfl
        rcases hc with hc | hc | hc <;> cases hc
      simpa using hne.symm
  | cons c inner =>
      have hne : c ≠ '[' := by
        rcases hinner c List.mem_cons_self with rfl | rfl <;> decide
      simpa using hne.symm

theorem adds_of_pair {key : String} {name rest behind : List Char} {table : Table}
    {extension : Extension} (hname : SpellsName key name) (hrest : EndsName rest)
    (h : extendByPair table [] (name ++ rest) = .ok (extension, behind)) :
    Table.Adds key table extension.table := by
  rcases adds_of_extendByPair h with ⟨names, left, hkey, hadds⟩
  rcases first_of_readKey blanks_nil hname hrest hkey with ⟨first, others, rfl, rfl⟩
  rw [firstName_cons] at hadds
  exact hadds

theorem adds_of_header {key : String} {opening inner name rest behind : List Char} {table : Table}
    {extension : Extension} (hopening : opening = ['['] ∨ opening = ['[', '['])
    (hinner : Blanks inner) (hname : SpellsName key name) (hrest : EndsName rest)
    (h : extendByHeader table (opening ++ (inner ++ (name ++ rest))) = .ok (extension, behind)) :
    Table.Adds key table extension.table := by
  rcases adds_of_extendByHeader h with ⟨names, left, hkey, hadds⟩
  have hinside : readKey (inner ++ (name ++ rest)) = .ok (names, left) := by
    rcases hopening with rfl | rfl
    · rw [List.singleton_append, if_neg (not_isPrefixOf_header hinner hname rest)] at hkey
      exact hkey
    · exact hkey
  rcases first_of_readKey hinner hname hrest hinside with ⟨first, others, rfl, rfl⟩
  rw [firstName_cons] at hadds
  exact hadds

/-- An entry that begins behind a table is added to the table, if the text is read at all. -/
theorem adds_of_begins {key : String} {text : List Char} (h : Begins key text) {fuel : Nat}
    {table : Table} {document : Document}
    (hread : readStatements fuel table [] text = .ok document) :
    exists after, Table.Adds key table after ∧ Table.Grows after document.table := by
  cases fuel with
  | zero => cases hread
  | succ fuel =>
      cases h with
      | @pair left name blanks mark hleft hname hblanks hmark rest =>
          have hends : EndsName (blanks ++ mark :: rest) := by
            refine endsName_append hblanks ?_ rest
            rcases hmark with rfl | rfl <;> rfl
          rw [readStatements_pair hleft hname] at hread
          rcases exists_of_statement hread with
            ⟨extension, behind, document', hextend, hothers, htable⟩
          rw [← htable]
          exact ⟨extension.table, adds_of_pair hname hends hextend,
            grows_of_readStatements hothers⟩
      | @header left opening inner name blanks mark hleft hopening hinner hname hblanks hmark rest =>
          have hends : EndsName (blanks ++ mark :: rest) := by
            refine endsName_append hblanks ?_ rest
            rcases hmark with rfl | rfl <;> rfl
          have hbracket : exists behind,
              opening ++ (inner ++ (name ++ (blanks ++ mark :: rest))) = '[' :: behind := by
            rcases hopening with rfl | rfl
            · exact ⟨_, rfl⟩
            · exact ⟨_, rfl⟩
          rcases hbracket with ⟨behind, hbracket⟩
          rw [hbracket, readStatements_header hleft, ← hbracket] at hread
          rcases exists_of_statement hread with
            ⟨extension, behind', document', hextend, hothers, htable⟩
          rw [← htable]
          exact ⟨extension.table, adds_of_header hopening hinner hname hends hextend,
            grows_of_readStatements hothers⟩

/-!
# Whole documents
-/

/-- The text of a document, without the mark that may stand in front of it. -/
def IsBody (document : String) (text : List Char) : Prop :=
  document.toList = text ∨ document.toList = '\uFEFF' :: text

/-- A text with no mark in front. -/
def Unmarked (text : List Char) : Prop :=
  text.head? ≠ some '\uFEFF'

theorem Unmarked.nil : Unmarked [] :=
  fun h => nomatch h

theorem Blanks.unmarked_append {blanks text : List Char} (h : Blanks blanks)
    (htext : Unmarked text) : Unmarked (blanks ++ text) := by
  cases blanks with
  | nil => exact htext
  | cons c blanks =>
      rintro ⟨⟩
      rcases h _ List.mem_cons_self with h | h <;> cases h

theorem SpellsName.unmarked_append {key : String} {name : List Char} (h : SpellsName key name)
    (rest : List Char) : Unmarked (name ++ rest) := by
  rcases h.cons_cases with ⟨c, cs, rfl, hc⟩
  rintro ⟨⟩
  rcases hc with hc | hc | hc <;> cases hc

theorem EndsLine.unmarked {text rest : List Char} (h : EndsLine text rest) : Unmarked text := by
  intro hmark
  have hmem := h.stops '\uFEFF' hmark
  simp [Toml.stops] at hmem

theorem Begins.unmarked {key : String} {text : List Char} (h : Begins key text) :
    Unmarked text := by
  cases h with
  | pair hleft hname => exact hleft.unmarked_append (hname.unmarked_append _)
  | header hleft hopening =>
      apply hleft.unmarked_append
      rcases hopening with rfl | rfl
      · exact fun h => nomatch h
      · exact fun h => nomatch h

theorem Rows.unmarked {Value : Toml -> List Char -> Prop} {entries : List (String × Toml)}
    {text rest : List Char} (h : Rows Value entries text rest)
    (hrest : entries = [] -> Unmarked rest) : Unmarked text := by
  cases h with
  | nil => exact hrest rfl
  | cons _ hrow =>
      cases hrow with
      | blank h => exact h.unmarked
      | pair hleft hname => exact hleft.unmarked_append (hname.unmarked_append _)

theorem parse_eq {document : String} {text : List Char} (h : IsBody document text)
    (htext : Unmarked text) : parse document = readStatements (text.length + 1) [] [] text := by
  unfold parse
  rcases h with h | h
  · rw [h]
    dsimp only
    split
    · exact absurd rfl htext
    · rfl
  · rw [h]
    rfl

/-- A document that is made of rows is read as the table of their entries. -/
theorem parse_rows {document : String} {entries : List (String × Toml)} {text : List Char}
    (hbody : IsBody document text) (h : Rows ReadsAs entries text [])
    (hnodup : (entries.map Prod.fst).Nodup) :
    exists statements, parse document = .ok ⟨statements, entries⟩ := by
  have hnodup' : ((([] : Table) ++ entries).map Prod.fst).Nodup := hnodup
  rcases readStatements_rows h (Nat.lt_succ_self _) hnodup' with ⟨statements, fuel, hfuel, hread⟩
  rw [parse_eq hbody (h.unmarked fun _ => Unmarked.nil), hread]
  cases fuel with
  | zero => cases hfuel
  | succ fuel => exact ⟨statements ++ [], rfl⟩

/-- A document that begins with rows is read only if they are, and holds their entries. -/
theorem exists_of_parse {document : String} {entries : List (String × Toml)}
    {text rest : List Char} {parsed : Document} (hbody : IsBody document text)
    (h : Rows StandsFor entries text rest) (hrest : entries = [] -> Unmarked rest)
    (hparse : parse document = .ok parsed) :
    (entries.map Prod.fst).Nodup ∧ (forall found, found ∈ entries -> found.2.IsClosed) ∧
      exists fuel document', readStatements fuel entries [] rest = .ok document' ∧
        document'.table = parsed.table := by
  have hempty : (([] : Table).map Prod.fst).Nodup := List.nodup_nil
  rw [parse_eq hbody (h.unmarked hrest)] at hparse
  exact exists_of_rows h (Nat.lt_succ_self _) hempty hparse

end Toml
end FixtureProbe
