import FixtureProbe.Proofs.Toml.Keys
import FixtureProbe.Proofs.Toml.Values

/-!
# Statement by statement

What a text begins with decides which statement is read. A pair or a header extends the table in which
the document has been collected so far; the rest of the document extends it further, and whatever
the rest is, nothing is taken back.
-/

namespace FixtureProbe
namespace Toml

open Strings (skipBlanks)

/-!
# The statement in front
-/

theorem readStatements_blank {text rest : List Char} (h : EndsLine text rest) {fuel : Nat}
    (hfuel : 0 < fuel) (table : Table) (current : List String) :
    readStatements (fuel + 1) table current text = readStatements fuel table current rest := by
  have hline := endLine_eq h
  cases h with
  | broken hblanks hcomment hending =>
      have hsolid := hcomment.solid_append (hending.solid rest)
      rw [endLine_append hblanks hsolid] at hline
      rw [readStatements, skipBlanks_append hblanks hsolid]
      cases hcomment with
      | none => rcases hending with rfl | rfl <;> rfl
      | some hcs =>
          rw [List.cons_append] at hline ⊢
          change (endLine _ >>= _) = _
          rw [hline]
          rfl
  | @last blanks comment hblanks hcomment =>
      have hsolid := hcomment.solid_append Solid.nil
      rw [← List.append_nil comment, endLine_append hblanks hsolid] at hline
      rw [← List.append_nil comment, readStatements, skipBlanks_append hblanks hsolid]
      cases hcomment with
      | none =>
          cases fuel with
          | zero => cases hfuel
          | succ fuel => rfl
      | some hcs =>
          rw [List.cons_append] at hline ⊢
          change (endLine _ >>= _) = _
          rw [hline]
          rfl

/-- What begins with a name is read as a pair. -/
theorem readStatements_pair {key : String} {left name : List Char} (hleft : Blanks left)
    (hname : SpellsName key name) (fuel : Nat) (table : Table) (current : List String)
    (rest : List Char) :
    readStatements (fuel + 1) table current (left ++ (name ++ rest)) = (do
      let (extension, rest) ← extendByPair table current (name ++ rest)
      let document ← readStatements fuel extension.table extension.current rest
      return { document with statements := extension.statement :: document.statements }) := by
  rw [readStatements, skipBlanks_append hleft (hname.solid_append rest)]
  rcases hname.cons_cases with ⟨c, cs, rfl, hc⟩
  rw [List.cons_append]
  have hne {d : Char} {behind : List Char} (heq : c :: (cs ++ rest) = d :: behind)
      (hd : d ∈ ['#', '\n', '\r', '[']) : False := by
    cases heq
    simp only [List.mem_cons, List.not_mem_nil, or_false] at hd
    rcases hd with rfl | rfl | rfl | rfl <;> rcases hc with hc | hc | hc <;> cases hc
  split
  · next heq => cases heq
  iterate 4 next heq => exact (hne heq (by simp)).elim
  · rfl

/-- What begins with a bracket is read as a header. -/
theorem readStatements_header {left : List Char} (hleft : Blanks left) (fuel : Nat) (table : Table)
    (current : List String) (rest : List Char) :
    readStatements (fuel + 1) table current (left ++ '[' :: rest) = (do
      let (extension, rest) ← extendByHeader table ('[' :: rest)
      let document ← readStatements fuel extension.table extension.current rest
      return { document with statements := extension.statement :: document.statements }) := by
  have hsolid : Solid ('[' :: rest) := by
    rintro c ⟨⟩
    decide
  rw [readStatements, skipBlanks_append hleft hsolid]
  rfl

/-!
# Pairs
-/

theorem readPair_of_readKey {names : List Name} {value : Toml} {text after cs tail : List Char}
    (hkey : readKey text = .ok (names, '=' :: (after ++ (cs ++ tail)))) (hafter : Blanks after)
    (hsolid : Solid (cs ++ tail)) (hread : readValue maxDepth (cs ++ tail) = .ok (value, tail)) :
    readPair (readValue maxDepth) text =
      .ok ((names, ⟨value, ⟨cs ++ tail, tail⟩⟩), tail) := by
  have hequals : Reading.expect ['='] ('=' :: (after ++ (cs ++ tail))) =
      .ok (after ++ (cs ++ tail)) := rfl
  unfold readPair
  rw [hkey, ok_bind]
  dsimp only
  rw [hequals]
  simp only [Reading.expecting, Except.mapError, ok_bind]
  rw [skipBlanks_append hafter hsolid, hread]
  rfl

theorem readValue_of_readPair {names names' : List Name} {placed : Placed Toml}
    {text rest behind : List Char} (hkey : readKey text = .ok (names, '=' :: rest))
    (h : readPair (readValue maxDepth) text = .ok ((names', placed), behind)) :
    names' = names ∧ readValue maxDepth (skipBlanks rest) = .ok (placed.value, behind) := by
  have hequals : Reading.expect ['='] ('=' :: rest) = .ok rest := rfl
  unfold readPair at h
  rw [hkey, ok_bind] at h
  dsimp only at h
  rw [hequals] at h
  rcases exists_of_bind h with ⟨⟨placed', behind'⟩, hreading, hpair⟩
  cases hpair
  rcases exists_of_bind (eq_ok_of_mapError hreading) with ⟨rest', hrest, hreading⟩
  cases hrest
  rcases exists_of_bind hreading with ⟨⟨value, behind'⟩, hread, hplaced⟩
  cases hplaced
  exact ⟨rfl, hread⟩

theorem endStatement_eq {text rest : List Char} (h : EndsLine text rest) :
    endStatement text = .ok rest := by
  rw [endStatement, endLine_eq h]
  rfl

/-- A pair is added to the table at the end if its key is free. -/
theorem extendByPair_of_readPair {name : Name} {placed : Placed Toml} {text tail rest : List Char}
    {table : Table}
    (hpair : readPair (readValue maxDepth) text = .ok (([name], placed), tail))
    (hend : EndsLine tail rest) (hfree : table.lookup name.text = none) :
    extendByPair table [] text =
      .ok (⟨.pair [name] placed, table ++ [(name.text, placed.value)], []⟩, rest) := by
  have hadd : Table.addPair [] [] name.text placed.value table =
      .ok (table ++ [(name.text, placed.value)]) := by
    have hisNone : ¬ (table.lookup name.text).isSome = true := by
      simp [hfree]
    exact if_neg hisNone
  have hnames : pathAndKey [name] = ([], name.text) := rfl
  unfold extendByPair
  rw [hpair, ok_bind]
  dsimp only
  rw [endStatement_eq hend, ok_bind, hnames]
  dsimp only
  rw [hadd]
  rfl

/-!
# What statements add
-/

/-- The first name of a key. -/
def firstName (names : List Name) : String :=
  (pathAndKey names).1.head?.getD (pathAndKey names).2

theorem firstName_cons (first : Name) (others : List Name) :
    firstName (first :: others) = first.text := by
  cases others with
  | nil => rfl
  | cons second others => rfl

/-- What is made of a table before a reading ends. -/
theorem exists_of_check {text rest behind : List Char} {result : Except Cause Table}
    {make : Table -> Extension} {extension : Extension}
    (h : Reading.check text (pure ((), rest)) (fun _ => result.map make) =
      .ok (extension, behind)) :
    exists table, result = .ok table ∧ extension = make table ∧ behind = rest := by
  cases result with
  | ok table =>
      cases h
      exact ⟨table, rfl, rfl, rfl⟩
  | error cause => cases h

theorem exists_of_extendByPair {table : Table} {current : List String} {text rest : List Char}
    {extension : Extension} (h : extendByPair table current text = .ok (extension, rest)) :
    exists names placed left,
      readPair (readValue maxDepth) text = .ok ((names, placed), left) ∧
        endStatement left = .ok rest ∧ extension.current = current ∧
          Table.addPair current (pathAndKey names).1 (pathAndKey names).2 placed.value table =
            .ok extension.table := by
  rcases exists_of_bind h with ⟨⟨⟨names, placed⟩, left⟩, hpair, h⟩
  rcases exists_of_bind h with ⟨rest', hend, h⟩
  rcases exists_of_check h with ⟨after, hadd, rfl, rfl⟩
  exact ⟨names, placed, left, hpair, hend, rfl, hadd⟩

theorem adds_of_extendByPair {table : Table} {current : List String} {text rest : List Char}
    {extension : Extension} (h : extendByPair table current text = .ok (extension, rest)) :
    exists names left, readKey text = .ok (names, left) ∧
      Table.Adds (current.head?.getD (firstName names)) table extension.table := by
  rcases exists_of_extendByPair h with ⟨names, placed, left, hpair, -, -, hadd⟩
  rcases exists_of_bind hpair with ⟨⟨names', left'⟩, hkey, hpair⟩
  rcases exists_of_bind hpair with ⟨found, -, hpair⟩
  cases hpair
  exact ⟨names, left', hkey, Table.adds_of_addPair hadd⟩

theorem exists_of_readHeader {opening closing text rest : List Char} {names : List Name}
    (h : readHeader opening closing text = .ok (names, rest)) :
    exists left, readKey (text.drop opening.length) = .ok (names, left) := by
  rcases exists_of_bind h with ⟨⟨names', left⟩, hkey, h⟩
  rcases exists_of_bind h with ⟨behind, -, h⟩
  rcases exists_of_bind h with ⟨rest', -, hnames⟩
  cases hnames
  exact ⟨left, hkey⟩

theorem adds_of_extendByHeader {table : Table} {text rest : List Char} {extension : Extension}
    (h : extendByHeader table text = .ok (extension, rest)) :
    exists names left,
      readKey (text.drop (if ['[', '['].isPrefixOf text then 2 else 1)) = .ok (names, left) ∧
        Table.Adds (firstName names) table extension.table := by
  unfold extendByHeader at h
  dsimp only at h
  rcases exists_of_bind (eq_ok_of_mapError h) with ⟨⟨names, left⟩, hheader, hextend⟩
  dsimp only at hextend
  split at hheader
  · cases hheader
  · by_cases helement : ['[', '['].isPrefixOf text = true
    · rw [if_pos helement] at hheader hextend ⊢
      rcases exists_of_readHeader hheader with ⟨left', hkey⟩
      rcases exists_of_check hextend with ⟨after, hafter, rfl, -⟩
      exact ⟨names, left', hkey, Table.adds_of_addElementHeader hafter⟩
    · rw [if_neg helement] at hheader hextend ⊢
      rcases exists_of_readHeader hheader with ⟨left', hkey⟩
      rcases exists_of_check hextend with ⟨after, hafter, rfl, -⟩
      exact ⟨names, left', hkey, Table.adds_of_addHeader hafter⟩

/-- A statement in front of a document has been read, and so has the rest of the document. -/
theorem exists_of_statement {reading : Reading (Extension × List Char)} {fuel : Nat}
    {document : Document}
    (h : (do
      let (extension, rest) ← reading
      let document ← readStatements fuel extension.table extension.current rest
      return { document with statements := extension.statement :: document.statements }) =
        .ok document) :
    exists extension rest document', reading = .ok (extension, rest) ∧
      readStatements fuel extension.table extension.current rest = .ok document' ∧
        document'.table = document.table := by
  rcases exists_of_bind h with ⟨⟨extension, rest⟩, hextension, h⟩
  rcases exists_of_bind h with ⟨document', hrest, hdocument⟩
  cases hdocument
  exact ⟨extension, rest, document', hextension, hrest, rfl⟩

/-- Whatever is read behind a table leaves what is in it. -/
theorem grows_of_readStatements {fuel : Nat} {table : Table} {current : List String}
    {text : List Char} {document : Document}
    (h : readStatements fuel table current text = .ok document) :
    Table.Grows table document.table := by
  induction fuel generalizing table current text document with
  | zero => cases h
  | succ fuel ih =>
      rw [readStatements] at h
      dsimp only at h
      split at h
      · cases h
        exact Table.Grows.refl table
      · rcases exists_of_bind h with ⟨rest, -, hrest⟩
        exact ih hrest
      · split at h
        · exact ih h
        · cases h
      · split at h
        · exact ih h
        · cases h
      · rcases exists_of_statement h with ⟨extension, rest, document', hextension, hrest, htable⟩
        rcases adds_of_extendByHeader hextension with ⟨names, left, -, hadds⟩
        rw [← htable]
        exact hadds.grows.trans (ih hrest)
      · rcases exists_of_statement h with ⟨extension, rest, document', hextension, hrest, htable⟩
        rcases adds_of_extendByPair hextension with ⟨names, left, -, hadds⟩
        rw [← htable]
        exact hadds.grows.trans (ih hrest)

end Toml
end FixtureProbe
