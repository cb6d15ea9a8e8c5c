import FixtureProbe.Json.Text
import FixtureProbe.Proofs.Decimal.Shortest
import FixtureProbe.Text.Scan
import Mathlib.Data.List.Basic

/-!
# The grammar of JSON texts

A relation between values and the texts that spell them: blanks may stand around every token,
characters of a string stand for themselves or are escaped, numbers have no zeros in front. The main
statement is that whatever value is written over several lines, its text spells the value; in
particular no string and no double can break the text that it stands in.
-/

namespace FixtureProbe
namespace Json

open Decimal (FloatFormat Scaled Binary)

/-!
# Blanks
-/

/-- Blanks between two tokens. -/
def Blanks (cs : List Char) : Prop :=
  forall c, c ∈ cs -> c = ' ' ∨ c = '\n' ∨ c = '\t' ∨ c = '\r'

/-!
# Numbers
-/

/-- Digits, at least one. -/
structure Digits (cs : List Char) : Prop where
  ne_nil : cs ≠ []
  isDigit : forall c, c ∈ cs -> c.isDigit = true

/-- The digits of a whole number: a zero stands in front of no other digit. -/
structure Whole (cs : List Char) : Prop extends Digits cs where
  leading : cs.head? = some '0' -> cs = ['0']

/-- The part of a number behind a point, if there is one. -/
inductive Fraction : List Char -> Prop where
  | none : Fraction []
  | some {cs : List Char} (h : Digits cs) : Fraction ('.' :: cs)

/-- The exponent of a number, if there is one. -/
inductive Exponent : List Char -> Prop where
  | none : Exponent []
  | some {e : Char} {cs : List Char} (sign : List Char) (he : e = 'e' ∨ e = 'E')
      (hsign : sign = [] ∨ sign = ['+'] ∨ sign = ['-']) (h : Digits cs) :
      Exponent (e :: (sign ++ cs))

/-- A number without a sign. -/
inductive Unsigned : List Char -> Prop where
  | parts {whole fraction exponent : List Char} (hwhole : Whole whole)
      (hfraction : Fraction fraction) (hexponent : Exponent exponent) :
      Unsigned (whole ++ fraction ++ exponent)

/-- A number. -/
inductive Numeral : List Char -> Prop where
  | positive {cs : List Char} (h : Unsigned cs) : Numeral cs
  | negative {cs : List Char} (h : Unsigned cs) : Numeral ('-' :: cs)

/-- How numbers are spelled. A double is spelled by some numeral; which one is left open here. -/
inductive SpellsNumber : JsonNumber -> List Char -> Prop where
  | natural {n : Nat} {cs : List Char} (h : Whole cs) (hvalue : Nat.ofDigitChars 10 cs 0 = n) :
      SpellsNumber (.natural n) cs
  | negative {n : Nat} {cs : List Char} (h : Whole cs) (hvalue : Nat.ofDigitChars 10 cs 0 = n) :
      SpellsNumber (.negative n) ('-' :: cs)
  | double {x : Float} {b : Binary} {cs : List Char} (hx : Binary.ofFloat? x = some b)
      (h : Numeral cs) : SpellsNumber (.double x) cs

/-!
# Strings
-/

/-- The letters behind a backslash, with the characters for which they stand. -/
def shortEscapes : List (Char × Char) :=
  [('"', '"'), ('\\', '\\'), ('/', '/'), ('b', '\x08'), ('f', '\x0c'), ('n', '\n'), ('r', '\r'),
    ('t', '\t')]

/-- How a character is spelled in a string. -/
inductive SpellsChar : Char -> List Char -> Prop where
  | plain {c : Char} (hcontrol : 0x20 ≤ c.toNat) (hquote : c ≠ '"') (hbackslash : c ≠ '\\') :
      SpellsChar c [c]
  | short {c letter : Char} (h : (letter, c) ∈ shortEscapes) : SpellsChar c ['\\', letter]
  | unit {c : Char} {digits : List Char} (hlength : digits.length = 4)
      (hvalue : Scan.hexNumber? digits = some c.toNat) : SpellsChar c ('\\' :: 'u' :: digits)
  /-- Two surrogates, the high one first. -/
  | pair {c : Char} {high low : Nat} {highDigits lowDigits : List Char}
      (hlengths : highDigits.length = 4 ∧ lowDigits.length = 4)
      (hhigh : Scan.hexNumber? highDigits = some (0xD800 + high)) (hhighBound : high < 0x400)
      (hlow : Scan.hexNumber? lowDigits = some (0xDC00 + low)) (hlowBound : low < 0x400)
      (hvalue : c.toNat = 0x10000 + high * 0x400 + low) :
      SpellsChar c ('\\' :: 'u' :: highDigits ++ '\\' :: 'u' :: lowDigits)

/-- How characters are spelled, one after another. -/
inductive SpellsChars : List Char -> List Char -> Prop where
  | nil : SpellsChars [] []
  | cons {c : Char} {cs spelled rest : List Char} (h : SpellsChar c spelled)
      (hrest : SpellsChars cs rest) : SpellsChars (c :: cs) (spelled ++ rest)

/-- How a string is spelled. -/
inductive SpellsString : String -> List Char -> Prop where
  | quoted {s : String} {cs : List Char} (h : SpellsChars s.toList cs) :
      SpellsString s ('"' :: cs ++ ['"'])

/-!
# Values
-/

mutual

/-- How values are spelled; the double that is no number is spelled as null. -/
inductive Spells : Json -> List Char -> Prop where
  | null : Spells .null ['n', 'u', 'l', 'l']
  | true : Spells (.bool true) ['t', 'r', 'u', 'e']
  | false : Spells (.bool false) ['f', 'a', 'l', 's', 'e']
  | number {n : JsonNumber} {cs : List Char} (h : SpellsNumber n cs) : Spells (.number n) cs
  | noNumber {x : Float} (hx : Binary.ofFloat? x = none) :
      Spells (.number (.double x)) ['n', 'u', 'l', 'l']
  | string {s : String} {cs : List Char} (h : SpellsString s cs) : Spells (.string s) cs
  | emptyArray {blanks : List Char} (h : Blanks blanks) :
      Spells (.array []) ('[' :: blanks ++ [']'])
  | array {items : List Json} {cs : List Char} (h : SpellsItems items cs) :
      Spells (.array items) ('[' :: cs ++ [']'])
  | emptyObject {blanks : List Char} (h : Blanks blanks) :
      Spells (.object []) ('\x7b' :: blanks ++ ['\x7d'])
  | object {members : List (String × Json)} {cs : List Char} (h : SpellsMembers members cs) :
      Spells (.object members) ('\x7b' :: cs ++ ['\x7d'])

/-- How the items of an array are spelled, at least one, with commas between them. -/
inductive SpellsItems : List Json -> List Char -> Prop where
  | last {item : Json} {left cs right : List Char} (hleft : Blanks left) (h : Spells item cs)
      (hright : Blanks right) : SpellsItems [item] (left ++ cs ++ right)
  | cons {item : Json} {items : List Json} {left cs right rest : List Char}
      (hleft : Blanks left) (h : Spells item cs) (hright : Blanks right)
      (hrest : SpellsItems items rest) :
      SpellsItems (item :: items) (left ++ cs ++ right ++ ',' :: rest)

/-- How the members of an object are spelled, at least one, with commas between them. -/
inductive SpellsMembers : List (String × Json) -> List Char -> Prop where
  | last {name : String} {value : Json} {left ns beforeColon afterColon cs right : List Char}
      (hleft : Blanks left) (hname : SpellsString name ns) (hbefore : Blanks beforeColon)
      (hafter : Blanks afterColon) (h : Spells value cs) (hright : Blanks right) :
      SpellsMembers [(name, value)]
        (left ++ ns ++ beforeColon ++ ':' :: afterColon ++ cs ++ right)
  | cons {name : String} {value : Json} {members : List (String × Json)}
      {left ns beforeColon afterColon cs right rest : List Char}
      (hleft : Blanks left) (hname : SpellsString name ns) (hbefore : Blanks beforeColon)
      (hafter : Blanks afterColon) (h : Spells value cs) (hright : Blanks right)
      (hrest : SpellsMembers members rest) :
      SpellsMembers ((name, value) :: members)
        (left ++ ns ++ beforeColon ++ ':' :: afterColon ++ cs ++ right ++ ',' :: rest)

end

/-!
# Numbers that are written
-/

theorem digits_toDigits (n : Nat) : Digits (Nat.toDigits 10 n) :=
  ⟨Nat.toDigits_ne_nil, fun _ hc => Nat.isDigit_of_mem_toDigits (by decide) (by decide) hc⟩

theorem digits_zeros (n : Nat) {cs : List Char} (h : Digits cs) :
    Digits (List.replicate n '0' ++ cs) := by
  constructor
  · exact List.append_ne_nil_of_right_ne_nil _ h.ne_nil
  · intro c hc
    rcases List.mem_append.mp hc with hc | hc
    · rw [List.eq_of_mem_replicate hc]
      rfl
    · exact h.isDigit c hc

/-- A number other than zero begins with a digit other than zero. -/
theorem head?_toDigits {n : Nat} (h : n ≠ 0) : (Nat.toDigits 10 n).head? ≠ some '0' := by
  induction n using Nat.strong_induction_on with
  | h n ih =>
      by_cases hlt : n < 10
      · have hdigit : forall d, d < 10 -> d ≠ 0 -> Nat.digitChar d ≠ '0' := by decide
        rw [Nat.toDigits_of_lt_base hlt]
        intro hzero
        exact hdigit n hlt h (Option.some.inj hzero)
      · have hshorter : n / 10 < n := Nat.div_lt_self (by omega) (by decide)
        have hne : n / 10 ≠ 0 := by omega
        rw [Nat.toDigits_of_base_le (by decide) (by omega),
          List.head?_append_of_ne_nil _ Nat.toDigits_ne_nil]
        exact ih (n / 10) hshorter hne

theorem whole_toDigits (n : Nat) : Whole (Nat.toDigits 10 n) := by
  refine ⟨digits_toDigits n, ?_⟩
  intro hzero
  by_cases hn : n = 0
  · rw [hn]
    rfl
  · exact absurd hzero (head?_toDigits hn)

/-- Zeros behind a number other than zero make another number. -/
theorem whole_append_zeros {n : Nat} (h : n ≠ 0) (zeros : Nat) :
    Whole (Nat.toDigits 10 n ++ List.replicate zeros '0') := by
  refine ⟨⟨?_, ?_⟩, ?_⟩
  · exact List.append_ne_nil_of_left_ne_nil Nat.toDigits_ne_nil _
  · intro c hc
    rcases List.mem_append.mp hc with hc | hc
    · exact (digits_toDigits n).isDigit c hc
    · rw [List.eq_of_mem_replicate hc]
      rfl
  · rw [List.head?_append_of_ne_nil _ Nat.toDigits_ne_nil]
    intro hzero
    exact absurd hzero (head?_toDigits h)

/-- The digits of a number may be divided by a point anywhere between them. -/
theorem Whole.take {cs : List Char} (h : Whole cs) {count : Nat} (hpos : 0 < count)
    (hlt : count < cs.length) : Whole (cs.take count) := by
  refine ⟨⟨?_, ?_⟩, ?_⟩
  · rw [Ne, List.take_eq_nil_iff]
    rintro (hzero | hnil)
    · omega
    · exact h.ne_nil hnil
  · intro c hc
    exact h.isDigit c (List.mem_of_mem_take hc)
  · rw [List.head?_take, if_neg (by omega)]
    intro hzero
    rw [h.leading hzero] at hlt
    simp only [List.length_singleton] at hlt
    omega

theorem Whole.first {c : Char} {cs : List Char} (h : Whole (c :: cs)) : Whole [c] := by
  refine ⟨⟨List.cons_ne_nil _ _, ?_⟩, ?_⟩
  · intro d hd
    exact h.isDigit d (List.mem_cons.mpr (Or.inl (List.mem_singleton.mp hd)))
  · intro hzero
    rw [Option.some.inj hzero]

theorem Whole.drop {cs : List Char} (h : Whole cs) {count : Nat} (hlt : count < cs.length) :
    Digits (cs.drop count) := by
  constructor
  · rw [Ne, List.drop_eq_nil_iff]
    omega
  · intro c hc
    exact h.isDigit c (List.mem_of_mem_drop hc)

theorem whole_zero : Whole ['0'] :=
  whole_toDigits 0

theorem exponent_exponentText (format : FloatFormat) (exponent : Int) :
    Exponent ('e' :: format.exponentText exponent) := by
  have hrepr (n : Nat) : (toString (n : Int)).toList = Nat.toDigits 10 n := by
    change n.repr.toList = _
    rw [Nat.repr_eq_ofList_toDigits, String.toList_ofList]
  unfold FloatFormat.exponentText
  cases exponent with
  | ofNat n =>
      split
      · rw [Int.ofNat_eq_natCast, hrepr]
        exact .some ['+'] (Or.inl rfl) (Or.inr (Or.inl rfl)) (digits_toDigits n)
      · rw [Int.ofNat_eq_natCast, hrepr]
        exact .some [] (Or.inl rfl) (Or.inl rfl) (digits_toDigits n)
  | negSucc n =>
      have hneg : (toString (Int.negSucc n)).toList = '-' :: Nat.toDigits 10 (n + 1) := by
        change ("-" ++ (n + 1).repr).toList = _
        rw [String.toList_append, Nat.repr_eq_ofList_toDigits, String.toList_ofList,
          String.toList_ofList]
        rfl
      split
      · rename_i hsign
        have := hsign.2
        omega
      · rw [hneg]
        exact .some ['-'] (Or.inl rfl) (Or.inr (Or.inr rfl)) (digits_toDigits (n + 1))

/-- A layout is a number, if no zeros are put behind the digit zero. -/
theorem unsigned_layout (format : FloatFormat) {d : Scaled} (h : d.digits ≠ 0 ∨ d.exponent ≤ 0) :
    Unsigned (format.layout d) := by
  have hwhole := whole_toDigits d.digits
  unfold FloatFormat.layout
  dsimp only
  -- Zeros behind the digits, a point among them, a point in front of them, or an exponent.
  split
  · have hzeros : Whole (Nat.toDigits 10 d.digits ++ List.replicate d.exponent.toNat '0') := by
      rcases h with hdigits | hexponent
      · exact whole_append_zeros hdigits _
      · have hnone : d.exponent.toNat = 0 := by omega
        rw [hnone, List.replicate_zero, List.append_nil]
        exact hwhole
    have hunsigned := Unsigned.parts hzeros (.some whole_zero.toDigits) .none
    rw [List.append_nil] at hunsigned
    exact hunsigned
  · split
    · rename_i hlarge hpoint
      have hlt : ((Nat.toDigits 10 d.digits).length + d.exponent).toNat <
          (Nat.toDigits 10 d.digits).length := by omega
      have hunsigned := Unsigned.parts (hwhole.take (by omega) hlt) (.some (hwhole.drop hlt)) .none
      rw [List.append_nil] at hunsigned
      exact hunsigned
    · split
      · have hfraction := Fraction.some
          (digits_zeros (-((Nat.toDigits 10 d.digits).length + d.exponent)).toNat hwhole.toDigits)
        have hunsigned := Unsigned.parts whole_zero hfraction .none
        rw [List.append_nil] at hunsigned
        exact hunsigned
      · have hexponent := exponent_exponentText format
          ((Nat.toDigits 10 d.digits).length + d.exponent - 1)
        generalize Nat.toDigits 10 d.digits = digits at hwhole hexponent ⊢
        cases digits with
        | nil => exact absurd rfl hwhole.ne_nil
        | cons first rest =>
            cases rest with
            | nil =>
                have hunsigned := Unsigned.parts hwhole .none hexponent
                rw [List.append_nil] at hunsigned
                exact hunsigned
            | cons second rest =>
                exact .parts hwhole.first (.some (hwhole.drop (Nat.one_lt_succ_succ _))) hexponent

theorem numeral_text? {format : FloatFormat} {x : Float} {b : Binary}
    (hx : Binary.ofFloat? x = some b) {text : String} (h : format.text? x = some text) :
    Numeral text.toList := by
  unfold FloatFormat.text? at h
  rw [hx, Option.map_some] at h
  cases h
  have hbody : Unsigned (if b.mantissa = 0 then ['0', '.', '0'] else format.layout b.shortest) := by
    split
    · exact .parts whole_zero (.some whole_zero.toDigits) .none
    · rename_i hne
      exact unsigned_layout format (Binary.shortest_cases (Binary.inRange_of_ofBits? hx) hne)
  dsimp only
  rw [String.toList_ofList]
  split
  · exact .negative hbody
  · exact .positive hbody

theorem spells_number (n : JsonNumber) : Spells (.number n) (numberText n).toList := by
  cases n with
  | natural n =>
      rw [numberText, Nat.toString_eq_ofList_toDigits, String.toList_ofList]
      exact .number (.natural (whole_toDigits n) Nat.ofDigitChars_ten_toDigits)
  | negative n =>
      rw [numberText, Nat.toString_eq_ofList_toDigits, String.toList_append, String.toList_ofList,
        String.toList_ofList]
      exact .number (.negative (whole_toDigits n) Nat.ofDigitChars_ten_toDigits)
  | double x =>
      rw [numberText]
      cases hx : Binary.ofFloat? x with
      | none =>
          rw [FloatFormat.text?, hx]
          exact .noNumber hx
      | some b =>
          cases htext : floatFormat.text? x with
          | none =>
              rw [FloatFormat.text?, hx] at htext
              cases htext
          | some text => exact .number (.double hx (numeral_text? hx htext))

/-!
# Strings that are written
-/

/-- A control character is spelled by the digits of its number. -/
theorem hexNumber?_control {n : Nat} (h : n < 0x20) :
    Scan.hexNumber? ['0', '0', Bytes.hexDigit (n / 16), Bytes.hexDigit (n % 16)] = some n := by
  have hall : forall n, n < 0x20 ->
      Scan.hexNumber? ['0', '0', Bytes.hexDigit (n / 16), Bytes.hexDigit (n % 16)] = some n := by
    decide
  exact hall n h

theorem spellsChar_escapeChar (c : Char) : SpellsChar c (escapeChar c) := by
  unfold escapeChar
  split_ifs with hquote hbackslash hnewLine hreturn htab hbackspace hfeed hcontrol
  · rw [hquote]
    exact .short (by decide)
  · rw [hbackslash]
    exact .short (by decide)
  · rw [hnewLine]
    exact .short (by decide)
  · rw [hreturn]
    exact .short (by decide)
  · rw [htab]
    exact .short (by decide)
  · rw [hbackspace]
    exact .short (by decide)
  · rw [hfeed]
    exact .short (by decide)
  · exact .unit rfl (hexNumber?_control hcontrol)
  · exact .plain (Nat.le_of_not_lt hcontrol) hquote hbackslash

theorem spellsChars_escaped (cs : List Char) : SpellsChars cs (cs.flatMap escapeChar) := by
  induction cs with
  | nil => exact .nil
  | cons c cs ih =>
      rw [List.flatMap_cons]
      exact .cons (spellsChar_escapeChar c) ih

theorem spellsString_stringText (s : String) : SpellsString s (stringText s).toList := by
  rw [stringText, String.toList_ofList]
  exact .quoted (spellsChars_escaped s.toList)

/-!
# Values that are written
-/

theorem blanks_nil : Blanks [] :=
  fun _ hc => nomatch hc

theorem blanks_space : Blanks [' '] :=
  fun _ hc => Or.inl (List.mem_singleton.mp hc)

theorem blanks_newLine (level : Nat) : Blanks (newLine level).toList := by
  intro c hc
  rw [newLine, String.toList_append, String.toList_ofList, String.toList_ofList] at hc
  rcases List.mem_append.mp hc with hc | hc
  · exact Or.inr (Or.inl (List.mem_singleton.mp hc))
  · exact Or.inl (List.eq_of_mem_replicate hc)

theorem toList_intercalate_cons (separator first second : String) (others : List String) :
    (String.intercalate separator (first :: second :: others)).toList =
      first.toList ++ separator.toList ++
        (String.intercalate separator (second :: others)).toList := by
  rw [String.toList_intercalate, String.toList_intercalate, List.map_cons, List.map_cons]
  simp only [List.intercalate, List.intersperse_cons_cons, List.flatten_cons, List.append_assoc]

/-- Texts between brackets stand between two line breaks. -/
theorem toList_bracketed (opening closing : String) (level : Nat) (first : String)
    (others : List String) :
    (bracketed opening closing level (first :: others)).toList =
      opening.toList ++
        ((newLine (level + 1)).toList ++
          (String.intercalate ("," ++ newLine (level + 1)) (first :: others)).toList ++
            (newLine level).toList) ++ closing.toList := by
  rw [bracketed]
  · simp only [String.toList_append, List.append_assoc]
  · exact fun h => nomatch h

-- The line break behind the last item is that of the closing bracket, which is on another level; so
-- the items are spelled with whatever blanks follow on them.
mutual

theorem spells_prettyAt (level : Nat) : (value : Json) ->
    Spells value (prettyAt level value).toList
  | .null => by
      rw [prettyAt, String.toList_ofList]
      exact .null
  | .bool true => by
      rw [prettyAt, if_pos rfl, String.toList_ofList]
      exact .true
  | .bool false => by
      rw [prettyAt, if_neg Bool.false_ne_true, String.toList_ofList]
      exact .false
  | .number n => spells_number n
  | .string s => .string (spellsString_stringText s)
  | .array [] => by
      rw [prettyAt, prettyItems, bracketed, String.toList_append, String.toList_ofList,
        String.toList_ofList]
      exact .emptyArray blanks_nil
  | .array (item :: items) => by
      have hitems := spellsItems_prettyItems (level + 1) (item :: items) (List.cons_ne_nil _ _)
        (blanks_newLine level)
      rw [prettyAt, prettyItems, toList_bracketed, String.toList_ofList, String.toList_ofList]
      exact .array hitems
  | .object [] => by
      rw [prettyAt, prettyMembers, bracketed, String.toList_append, String.toList_ofList,
        String.toList_ofList]
      exact .emptyObject blanks_nil
  | .object ((name, value) :: members) => by
      have hmembers := spellsMembers_prettyMembers (level + 1) ((name, value) :: members)
        (List.cons_ne_nil _ _) (blanks_newLine level)
      rw [prettyAt, prettyMembers, toList_bracketed, String.toList_ofList, String.toList_ofList]
      exact .object hmembers

theorem spellsItems_prettyItems (level : Nat) : (items : List Json) -> items ≠ [] ->
    {right : List Char} -> Blanks right ->
      SpellsItems items ((newLine level).toList ++
        (String.intercalate ("," ++ newLine level) (prettyItems level items)).toList ++ right)
  | [], hne, _, _ => absurd rfl hne
  | [item], _, _, hright => by
      rw [prettyItems, prettyItems, String.intercalate_singleton]
      exact .last (blanks_newLine level) (spells_prettyAt level item) hright
  | item :: other :: items, _, right, hright => by
      have hrest := spellsItems_prettyItems level (other :: items) (List.cons_ne_nil _ _) hright
      have hitems := SpellsItems.cons (blanks_newLine level) (spells_prettyAt level item) blanks_nil
        hrest
      rw [prettyItems] at hitems ⊢
      rw [prettyItems, toList_intercalate_cons, String.toList_append]
      simpa using hitems

theorem spellsMembers_prettyMembers (level : Nat) : (members : List (String × Json)) ->
    members ≠ [] -> {right : List Char} -> Blanks right ->
      SpellsMembers members ((newLine level).toList ++
        (String.intercalate ("," ++ newLine level) (prettyMembers level members)).toList ++ right)
  | [], hne, _, _ => absurd rfl hne
  | [(name, value)], _, right, hright => by
      have hmember := SpellsMembers.last (blanks_newLine level) (spellsString_stringText name)
        blanks_nil blanks_space (spells_prettyAt level value) hright
      rw [prettyMembers, prettyMembers, String.intercalate_singleton]
      simpa using hmember
  | (name, value) :: (otherName, other) :: members, _, right, hright => by
      have hrest := spellsMembers_prettyMembers level ((otherName, other) :: members)
        (List.cons_ne_nil _ _) hright
      have hmembers := SpellsMembers.cons (blanks_newLine level) (spellsString_stringText name)
        blanks_nil blanks_space (spells_prettyAt level value) blanks_nil hrest
      rw [prettyMembers] at hmembers ⊢
      rw [prettyMembers, toList_intercalate_cons]
      simpa using hmembers

end

/-- Every value that is written is spelled by its text. -/
theorem spells_pretty (value : Json) : Spells value value.pretty.toList :=
  spells_prettyAt 0 value

end Json
end FixtureProbe
