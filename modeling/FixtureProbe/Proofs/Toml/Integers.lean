import FixtureProbe.Proofs.Json.Grammar
import FixtureProbe.Proofs.Sequence
import FixtureProbe.Proofs.Toml.Line

/-!
# Whole numbers

How whole numbers are spelled: in four bases, with a sign in front if the base is ten, and with
underscores between digits. In front of blanks, comments and line breaks such a text is read as the
number that it spells, if 64 bits can hold the number, and as nothing else.
-/

namespace FixtureProbe
namespace Toml

/-!
# Spelling
-/

/-- Digits in a base with the number that they spell. -/
inductive SpellsNat (base : Nat) : Nat -> List Char -> Prop where
  | nil : SpellsNat base 0 []
  | snoc {n v : Nat} {d : Char} {ds : List Char} (h : SpellsNat base n ds)
      (hd : Bytes.hexValue? d = some v) (hlt : v < base) :
      SpellsNat base (n * base + v) (ds ++ [d])

/-- Digits, and the same digits with underscores between some of them. -/
inductive Spaced : List Char -> List Char -> Prop where
  | last (d : Char) : Spaced [d] [d]
  | next (d : Char) {ds cs : List Char} (h : Spaced ds cs) : Spaced (d :: ds) (d :: cs)
  | apart (d : Char) {ds cs : List Char} (h : Spaced ds cs) : Spaced (d :: ds) (d :: '_' :: cs)

/-- Decimal digits: a zero stands in front of no other digit. -/
inductive SpellsDecimal : Nat -> List Char -> Prop where
  | digits {n : Nat} {ds cs : List Char} (hvalue : SpellsNat 10 n ds) (hspaced : Spaced ds cs)
      (hleading : ds.head? = some '0' -> ds = ['0']) : SpellsDecimal n cs

/-- The letters behind a zero that tell the base. -/
def baseMarks : List (Char × Nat) :=
  [('x', 16), ('o', 8), ('b', 2)]

/-- A sign, or none. -/
def IsSign (sign : List Char) : Prop :=
  sign = [] ∨ sign = ['+'] ∨ sign = ['-']

/-- A number with a sign. -/
def signed (sign : List Char) (n : Nat) : Int :=
  if sign = ['-'] then -n else n

/-- How a whole number is spelled. -/
inductive SpellsInteger : Int -> List Char -> Prop where
  | decimal {n : Nat} {sign cs : List Char} (hsign : IsSign sign) (h : SpellsDecimal n cs) :
      SpellsInteger (signed sign n) (sign ++ cs)
  | based {n base : Nat} {mark : Char} {ds cs : List Char} (hmark : (mark, base) ∈ baseMarks)
      (hvalue : SpellsNat base n ds) (hspaced : Spaced ds cs) :
      SpellsInteger n ('0' :: mark :: cs)

/-- A number that 64 bits with a sign can hold. -/
def InRange (n : Int) : Prop :=
  -(UInt64.size / 2 : Nat) ≤ n ∧ n < (UInt64.size / 2 : Nat)

instance (n : Int) : Decidable (InRange n) :=
  inferInstanceAs (Decidable (_ ∧ _))

/-!
# Digits
-/

theorem SpellsNat.isDigit {base n : Nat} {ds : List Char} (h : SpellsNat base n ds) :
    forall d, d ∈ ds -> (Bytes.hexValue? d).any (· < base) = true := by
  induction h with
  | nil => exact fun _ hd => nomatch hd
  | snoc _ hd hlt ih =>
      intro d hmem
      rcases List.mem_append.mp hmem with hmem | hmem
      · exact ih d hmem
      · rw [List.mem_singleton.mp hmem, hd]
        simpa using hlt

theorem SpellsNat.foldl_eq {base n : Nat} {ds : List Char} (h : SpellsNat base n ds) :
    ds.foldl (fun n c => n * base + (Bytes.hexValue? c).getD 0) 0 = n := by
  induction h with
  | nil => rfl
  | snoc _ hd _ ih => simp [List.foldl_append, ih, hd]

/-- A decimal digit is read alike by all readers of digits. -/
theorem isDigit_of_hexValue? {d : Char} {v : Nat} (hd : Bytes.hexValue? d = some v)
    (hlt : v < 10) : d.isDigit = true ∧ d.toNat - 48 = v := by
  unfold Bytes.hexValue? at hd
  split_ifs at hd with hdigit hlower hupper
  · have hdec : d.isDigit = true := by
      simp only [Char.isDigit, Bool.and_eq_true, decide_eq_true_eq]
      exact hdigit
    exact ⟨hdec, Option.some.inj hd⟩
  · have hle : 'a'.toNat ≤ d.toNat := hlower.1
    have hv := Option.some.inj hd
    have : 'a'.toNat = 97 := rfl
    omega
  · have hle : 'A'.toNat ≤ d.toNat := hupper.1
    have hv := Option.some.inj hd
    have : 'A'.toNat = 65 := rfl
    omega

theorem SpellsNat.isDecimal {n : Nat} {ds : List Char} (h : SpellsNat 10 n ds) :
    forall d, d ∈ ds -> d.isDigit = true := by
  intro d hmem
  have hany := h.isDigit d hmem
  cases hd : Bytes.hexValue? d with
  | none =>
      rw [hd] at hany
      cases hany
  | some v =>
      rw [hd] at hany
      exact (isDigit_of_hexValue? hd (by simpa using hany)).1

theorem Decimal.bounded_append (bound : Nat) (beyond : NumberError) (n : Nat)
    (front back : List Char) :
    Decimal.bounded bound beyond n (front ++ back) =
      Decimal.bounded bound beyond n front >>= fun n => Decimal.bounded bound beyond n back := by
  induction front generalizing n with
  | nil => rfl
  | cons c front ih =>
      simp only [List.cons_append, Decimal.bounded]
      split
      · rfl
      · split
        · exact ih _
        · rfl

theorem SpellsNat.bounded_eq {n : Nat} {ds : List Char} (h : SpellsNat 10 n ds) (bound : Nat)
    (beyond : NumberError) :
    Decimal.bounded bound beyond 0 ds = if n ≤ bound then .ok n else .error beyond := by
  induction h with
  | nil => rfl
  | @snoc n v d ds _ hd hlt ih =>
      rcases isDigit_of_hexValue? hd hlt with ⟨hdigit, hvalue⟩
      rw [Decimal.bounded_append, ih]
      by_cases hn : n ≤ bound
      · rw [if_pos hn, ok_bind]
        simp only [Decimal.bounded, hdigit, hvalue, Bool.not_true, Bool.false_eq_true, if_false]
      · rw [if_neg hn, if_neg (by omega)]
        rfl

namespace Number

variable {isDigit : Char -> Bool} {rest : List Char}

/-- What ends digits. -/
def EndsDigits (isDigit : Char -> Bool) (rest : List Char) : Prop :=
  forall c, rest.head? = some c -> isDigit c = false ∧ c ≠ '_'

theorem moreDigits_of_ends (h : EndsDigits isDigit rest) :
    moreDigits isDigit rest = .ok ([], rest) := by
  cases rest with
  | nil => rfl
  | cons c rest =>
      rcases h c rfl with ⟨hdigit, hspace⟩
      rw [moreDigits]
      · rw [if_neg (by simp [hdigit])]
        rfl
      · exact fun _ _ h => absurd h hspace
      · exact fun h => absurd h hspace

theorem someDigits_cons {d : Char} (text : List Char) (hd : isDigit d = true) :
    someDigits isDigit (d :: text) = (do
      let (digits, rest) ← moreDigits isDigit text
      return (d :: digits, rest)) :=
  if_pos hd

theorem moreDigits_cons {d : Char} (text : List Char) (hd : isDigit d = true)
    (hspace : isDigit '_' = false) :
    moreDigits isDigit (d :: text) = someDigits isDigit (d :: text) := by
  have hne : d ≠ '_' := by
    rintro rfl
    rw [hd] at hspace
    cases hspace
  rw [moreDigits, someDigits_cons text hd, if_pos hd]
  · exact fun _ _ h => absurd h hne
  · exact fun h => absurd h hne

theorem moreDigits_apart {d : Char} (text : List Char) (hd : isDigit d = true) :
    moreDigits isDigit ('_' :: d :: text) = someDigits isDigit (d :: text) := by
  rw [moreDigits, someDigits_cons text hd, if_pos hd]

theorem someDigits_spaced {ds cs : List Char} (h : Spaced ds cs)
    (hdigits : forall d, d ∈ ds -> isDigit d = true) (hspace : isDigit '_' = false)
    (hrest : EndsDigits isDigit rest) : someDigits isDigit (cs ++ rest) = .ok (ds, rest) := by
  induction h with
  | last d =>
      have hd := hdigits d List.mem_cons_self
      rw [List.singleton_append, someDigits_cons rest hd, moreDigits_of_ends hrest]
      rfl
  | @next d ds cs hspaced ih =>
      have hd := hdigits d List.mem_cons_self
      have hothers := ih fun d hmem => hdigits d (List.mem_cons_of_mem _ hmem)
      have hmore : moreDigits isDigit (cs ++ rest) = someDigits isDigit (cs ++ rest) := by
        cases hspaced with
        | last c =>
            exact moreDigits_cons _ (hdigits c (by simp)) hspace
        | next c => exact moreDigits_cons _ (hdigits c (by simp)) hspace
        | apart c => exact moreDigits_cons _ (hdigits c (by simp)) hspace
      rw [List.cons_append, someDigits_cons _ hd, hmore, hothers]
      rfl
  | @apart d ds cs hspaced ih =>
      have hd := hdigits d List.mem_cons_self
      have hothers := ih fun d hmem => hdigits d (List.mem_cons_of_mem _ hmem)
      have hmore : moreDigits isDigit ('_' :: (cs ++ rest)) = someDigits isDigit (cs ++ rest) := by
        cases hspaced with
        | last c => exact moreDigits_apart _ (hdigits c (by simp))
        | next c => exact moreDigits_apart _ (hdigits c (by simp))
        | apart c => exact moreDigits_apart _ (hdigits c (by simp))
      rw [List.cons_append, List.cons_append, someDigits_cons _ hd, hmore, hothers]
      rfl

end Number

namespace Reading

variable {α β : Type}

/-- A failure after which another reader may be tried. -/
def Passes (reading : Reading α) : Prop :=
  exists failure, reading = .error failure ∧ failure.isFinal = false

theorem passes_fail (left : List Char) : (Reading.fail left : Reading α).Passes :=
  ⟨_, rfl, rfl⟩

theorem passes_failFor (cause : Cause) (left : List Char) :
    (Reading.failFor cause left : Reading α).Passes :=
  ⟨_, rfl, rfl⟩

theorem Passes.about {reading : Reading α} (h : reading.Passes) (subject : String) :
    (reading.about subject).Passes := by
  rcases h with ⟨failure, rfl, hopen⟩
  exact ⟨_, rfl, hopen⟩

theorem Passes.bind {reading : Reading α} (h : reading.Passes) (next : α -> Reading β) :
    (reading >>= next).Passes := by
  rcases h with ⟨failure, rfl, hopen⟩
  exact ⟨failure, rfl, hopen⟩

theorem Passes.orElse_eq {reading : Reading α} (h : reading.Passes) (other : Unit -> Reading α) :
    reading.orElse other = other () := by
  rcases h with ⟨failure, rfl, hopen⟩
  exact if_neg (by simp [hopen])

end Reading

/-!
# No date, no time, no point
-/

namespace DateTime

/-- Behind digits at the beginning of a text stands neither a hyphen nor a colon. -/
def NoSeparator (text : List Char) : Prop :=
  forall ds c rest, text = ds ++ c :: rest -> ds ≠ [] -> (forall d, d ∈ ds -> d.isDigit = true) ->
    c ≠ '-' ∧ c ≠ ':'

theorem readField_cases (count low high : Nat) (text : List Char) :
    (readField count low high text).Passes ∨
      exists n, readField count low high text = .ok (n, text.drop count) ∧
        (text.take count).length = count ∧ forall d, d ∈ text.take count -> d.isDigit = true := by
  unfold readField
  dsimp only
  split_ifs with hlength hbounds
  · exact Or.inl (Reading.passes_fail text)
  · exact Or.inl (Reading.passes_failFor .outOfRange text)
  · have hprefix := List.takeWhile_prefix Char.isDigit (l := text.take count)
    have hle := hprefix.length_le
    have htake : (text.take count).length ≤ count := List.length_take_le count text
    have heq := hprefix.eq_of_length (by omega)
    refine Or.inr ⟨_, rfl, by omega, ?_⟩
    intro d hd
    rw [← heq] at hd
    exact List.all_eq_true.mp List.all_takeWhile d hd

/-- What stands behind a field is no separator, so reading ends there. -/
theorem passes_of_noSeparator {text : List Char} (h : NoSeparator text) {count low high : Nat}
    (hcount : 0 < count) {separator : Char} (hseparator : separator = '-' ∨ separator = ':')
    {α : Type} (next : Nat -> List Char -> Reading α) :
    (do
      let (n, text) ← readField count low high text
      let text ← Reading.expect [separator] text
      next n text : Reading α).Passes := by
  rcases readField_cases count low high text with hfails | ⟨n, hread, hlength, hdigits⟩
  · exact hfails.bind _
  · rw [hread, ok_bind]
    have hfails : (Reading.expect [separator] (text.drop count)).Passes := by
      cases hdrop : text.drop count with
      | nil => exact Reading.passes_fail []
      | cons c rest =>
          have hne : text.take count ≠ [] := by
            rintro hnil
            rw [hnil] at hlength
            exact absurd hlength (Nat.ne_of_lt hcount)
          have hsplit := h (text.take count) c rest (by rw [← hdrop, List.take_append_drop]) hne
            hdigits
          have hc : separator ≠ c := by
            rcases hseparator with rfl | rfl
            · exact hsplit.1.symm
            · exact hsplit.2.symm
          refine ⟨_, if_neg ?_, rfl⟩
          simp [hc]
    exact hfails.bind _

theorem read_passes {text : List Char} (h : NoSeparator text) : (read text).Passes := by
  have hdate : (readDate text).Passes :=
    passes_of_noSeparator h (Nat.succ_pos 3) (Or.inl rfl) fun year text => (readDay year text).certain
  have htime : (readTime text).Passes :=
    passes_of_noSeparator h (Nat.succ_pos 1) (Or.inr rfl) fun _ text => (readMinutes text).certain
  have hdated := (hdate.bind fun rest =>
    Reading.skipOptional rest (readTimeBehind rest)).about "date-time"
  unfold read
  dsimp only
  rw [hdated.orElse_eq]
  exact htime.about "time"

theorem noSeparator_append {first : Char} {others rest : List Char}
    (hothers : forall c, c ∈ others -> c ≠ '-' ∧ c ≠ ':') (hrest : Stops rest) :
    NoSeparator (first :: others ++ rest) := by
  have hstops : forall c, c ∈ stops -> (c ≠ '-' ∧ c ≠ ':') ∧ c.isDigit = false := by
    simp [stops]
  intro ds c behind heq hne hdigits
  cases ds with
  | nil => exact absurd rfl hne
  | cons d ds =>
      rw [List.cons_append, List.cons_append, List.cons.injEq] at heq
      -- The digits end within the number, right behind it, or reach beyond what ends it.
      rcases List.append_eq_append_iff.mp heq.2 with ⟨more, hds, hmore⟩ | ⟨more, hnumber, hmore⟩
      · cases more with
        | nil => exact (hstops c (hrest c (by simp [hmore]))).1
        | cons e more =>
            have hdigit := hdigits e (by simp [hds])
            rw [(hstops e (hrest e (by simp [hmore]))).2] at hdigit
            cases hdigit
      · cases more with
        | nil => exact (hstops c (hrest c (by simpa using congrArg List.head? hmore.symm))).1
        | cons e more =>
            rw [List.cons_append, List.cons.injEq] at hmore
            rw [hmore.1]
            exact hothers e (by simp [hnumber])

end DateTime

/-!
# Numbers that are read
-/

theorem Stops.endsDigits {rest : List Char} (h : Stops rest) (base : Nat) :
    Number.EndsDigits (fun c => (Bytes.hexValue? c).any (· < base)) rest := by
  have hstops : forall c, c ∈ stops -> Bytes.hexValue? c = none ∧ c ≠ '_' := by
    simp [stops, Bytes.hexValue?]
  intro c hc
  rcases hstops c (h c hc) with ⟨hvalue, hspace⟩
  have hdigit : (Bytes.hexValue? c).any (· < base) = false := by
    rw [hvalue]
    rfl
  exact ⟨hdigit, hspace⟩

theorem Stops.endsDecimal {rest : List Char} (h : Stops rest) :
    Number.EndsDigits Char.isDigit rest := by
  have hstops : forall c, c ∈ stops -> c.isDigit = false ∧ c ≠ '_' := by
    simp [stops]
  exact fun c hc => hstops c (h c hc)

theorem Spaced.mem {ds cs : List Char} (h : Spaced ds cs) :
    forall c, c ∈ cs -> c ∈ ds ∨ c = '_' := by
  induction h with
  | last d => exact fun c hc => Or.inl hc
  | next d _ ih =>
      intro c hc
      rcases List.mem_cons.mp hc with rfl | hc
      · exact Or.inl List.mem_cons_self
      · exact (ih c hc).imp_left (List.mem_cons_of_mem d)
  | apart d _ ih =>
      intro c hc
      rcases List.mem_cons.mp hc with rfl | hc
      · exact Or.inl List.mem_cons_self
      · rcases List.mem_cons.mp hc with rfl | hc
        · exact Or.inr rfl
        · exact (ih c hc).imp_left (List.mem_cons_of_mem d)

theorem Spaced.cons_cases {ds cs : List Char} (h : Spaced ds cs) :
    exists d ds' cs', ds = d :: ds' ∧ cs = d :: cs' := by
  cases h with
  | last d => exact ⟨d, [], [], rfl, rfl⟩
  | next d => exact ⟨d, _, _, rfl, rfl⟩
  | apart d => exact ⟨d, _, _, rfl, rfl⟩

theorem SpellsDecimal.cons_cases {n : Nat} {cs : List Char} (h : SpellsDecimal n cs) :
    exists d cs', cs = d :: cs' ∧ d.isDigit = true := by
  cases h with
  | digits hvalue hspaced =>
      rcases hspaced.cons_cases with ⟨d, ds', cs', rfl, rfl⟩
      exact ⟨d, cs', rfl, hvalue.isDecimal d List.mem_cons_self⟩

namespace Number

theorem sign_append {s text : List Char} {d : Char} (hs : IsSign s) (hd : d.isDigit = true) :
    sign (s ++ d :: text) = (s, d :: text) := by
  rcases hs with rfl | rfl | rfl
  · unfold sign
    split
    · next heq =>
      rw [(List.cons.inj heq).1] at hd
      cases hd
    · next heq =>
      rw [(List.cons.inj heq).1] at hd
      cases hd
    · rfl
  · rfl
  · rfl

/-- A sign and decimal digits are read up to what stops them. -/
theorem exists_readSigned {n : Nat} {s cs rest : List Char} (hs : IsSign s)
    (h : SpellsDecimal n cs) (hrest : Stops rest) :
    exists ds, SpellsNat 10 n ds ∧ ds ≠ [] ∧
      readSigned (s ++ (cs ++ rest)) = .ok ((s, ds), rest) := by
  cases h with
  | @digits ds cs hvalue hspaced hleading =>
      rcases hspaced.cons_cases with ⟨d, ds', cs', rfl, rfl⟩
      refine ⟨d :: ds', hvalue, List.cons_ne_nil d ds', ?_⟩
      have hd := hvalue.isDecimal d List.mem_cons_self
      have hread := someDigits_spaced hspaced hvalue.isDecimal rfl hrest.endsDecimal
      unfold readSigned
      rw [List.cons_append, sign_append hs hd]
      dsimp only
      split
      · next heq =>
        -- A zero in front is the only digit.
        cases heq
        cases hleading rfl
        cases hspaced
        · rfl
        all_goals contradiction
      · rw [← List.cons_append, hread]
        rfl

theorem readExponent_passes {rest : List Char}
    (h : forall c, rest.head? = some c -> c ≠ 'e' ∧ c ≠ 'E') : (readExponent rest).Passes := by
  cases rest with
  | nil => exact Reading.passes_fail []
  | cons c rest =>
      have hc := h c rfl
      exact ⟨_, if_neg (by simp [hc]), rfl⟩

theorem readFraction_passes {rest : List Char} (h : rest.head? ≠ some '.') :
    (readFraction rest).Passes := by
  unfold readFraction
  split
  · exact absurd rfl h
  · exact Reading.passes_fail rest

/-- A text that goes on with neither an exponent nor a fraction. -/
theorem readTail_passes {rest : List Char}
    (h : forall c, rest.head? = some c -> c ≠ 'e' ∧ c ≠ 'E' ∧ c ≠ '.') :
    (readTail rest).Passes := by
  have hexponent : (readExponent rest).Passes :=
    readExponent_passes fun c hc => ⟨(h c hc).1, (h c hc).2.1⟩
  have hfraction : (readFraction rest).Passes :=
    readFraction_passes fun hc => (h '.' hc).2.2 rfl
  unfold readTail
  dsimp only
  rw [(hexponent.bind _).orElse_eq]
  exact hfraction.bind _

theorem readSpecial_passes {s text : List Char} {d : Char} (hs : IsSign s)
    (hd : d.isDigit = true) : (readSpecial (s ++ d :: text)).Passes := by
  unfold readSpecial
  rw [sign_append hs hd]
  dsimp only
  split
  · next heq =>
    rw [(List.cons.inj heq).1] at hd
    cases hd
  · next heq =>
    rw [(List.cons.inj heq).1] at hd
    cases hd
  · exact Reading.passes_fail _

/-- Digits with neither a fraction nor an exponent are no number with a point. -/
theorem readFloat_passes {s text rest : List Char} {d : Char}
    {parts : List Char × List Char} (hs : IsSign s) (hd : d.isDigit = true)
    (hsigned : readSigned (s ++ d :: text) = .ok (parts, rest))
    (hrest : forall c, rest.head? = some c -> c ≠ 'e' ∧ c ≠ 'E' ∧ c ≠ '.') :
    (readFloat (s ++ d :: text)).Passes := by
  have hpointed : (readPointed (s ++ d :: text)).Passes := by
    unfold readPointed
    rw [hsigned, ok_bind]
    exact (readTail_passes hrest).bind _
  unfold readFloat
  rw [hpointed.orElse_eq]
  exact (readSpecial_passes hs hd).about _

/-- A bound on the digits is a bound on the number. -/
theorem map_bounded_eq {n bound : Nat} {ds : List Char} (h : SpellsNat 10 n ds)
    (beyond : NumberError) (f : Int -> Int) {P : Prop} [Decidable P] (hbound : n ≤ bound ↔ P) :
    (do let n ← Decimal.bounded bound beyond 0 ds; pure (n : Int) : Except NumberError Int).map f =
      if P then .ok (f n) else .error beyond := by
  rw [h.bounded_eq]
  by_cases hn : n ≤ bound
  · rw [if_pos hn, if_pos (hbound.mp hn)]
    rfl
  · rw [if_neg hn, if_neg (mt hbound.mpr hn)]
    rfl

theorem exists_signed_eq {n : Nat} {s ds : List Char} (hs : IsSign s) (h : SpellsNat 10 n ds)
    (hne : ds ≠ []) :
    exists error, Decimal.signed (String.ofList (s ++ ds)) =
      if InRange (signed s n) then .ok (signed s n) else .error error := by
  have hsize : 1 ≤ UInt64.size / 2 := by decide
  have hpositive : n ≤ UInt64.size / 2 - 1 ↔ InRange n := by
    unfold InRange
    omega
  have hnegative : n ≤ UInt64.size / 2 ↔ InRange (-n) := by
    unfold InRange
    omega
  cases ds with
  | nil => exact absurd rfl hne
  | cons d ds =>
      have hd := h.isDecimal d List.mem_cons_self
      unfold Decimal.signed
      rw [String.toList_ofList]
      rcases hs with rfl | rfl | rfl
      · refine ⟨.tooLarge, ?_⟩
        rw [List.nil_append]
        split
        · next heq => cases heq
        · next heq =>
          rw [(List.cons.inj heq).1] at hd
          cases hd
        · next heq =>
          rw [(List.cons.inj heq).1] at hd
          cases hd
        · exact map_bounded_eq h .tooLarge (fun n => n) hpositive
      · exact ⟨.tooLarge, map_bounded_eq h .tooLarge (fun n => n) hpositive⟩
      · exact ⟨.tooSmall, map_bounded_eq h .tooSmall (fun n => -n) hnegative⟩

/-- A reading of a number that fails only if the number is too large. -/
structure Gives (reading : Reading (Int × List Char)) (n : Int) (rest : List Char) : Prop where
  inRange : InRange n -> reading = .ok (n, rest)
  beyond : ¬ InRange n -> exists failure, reading = .error failure

/-- What stands behind a zero in decimal digits is no mark of another base. -/
theorem not_mark_of_decimal {n : Nat} {c : Char} {s cs rest text : List Char} (hs : IsSign s)
    (h : SpellsDecimal n cs) (hrest : Stops rest) (heq : s ++ (cs ++ rest) = '0' :: c :: text) :
    c ≠ 'x' ∧ c ≠ 'o' ∧ c ≠ 'b' := by
  have hstops : forall c, c ∈ stops -> c ≠ 'x' ∧ c ≠ 'o' ∧ c ≠ 'b' := by
    simp [stops]
  rcases hs with rfl | rfl | rfl
  · cases h with
    | @digits ds cs hvalue hspaced hleading =>
        rcases hspaced.cons_cases with ⟨d, ds', cs', rfl, rfl⟩
        rw [List.nil_append, List.cons_append, List.cons.injEq] at heq
        rcases heq with ⟨rfl, heq⟩
        cases hleading rfl
        cases hspaced with
        | last => exact hstops c (hrest c (by rw [← List.nil_append rest, heq]; rfl))
        | next _ h => cases h
        | apart _ h => cases h
  · cases heq
  · cases heq

theorem readInteger_decimal {n : Nat} {s cs rest : List Char} (hs : IsSign s)
    (h : SpellsDecimal n cs) (hrest : Stops rest) :
    Gives (readInteger (s ++ (cs ++ rest))) (signed s n) rest := by
  rcases exists_readSigned hs h hrest with ⟨ds, hds, hne, hread⟩
  rcases exists_signed_eq hs hds hne with ⟨error, hsigned⟩
  unfold readInteger
  split
  · next heq => exact absurd rfl (not_mark_of_decimal hs h hrest heq).1
  · next heq => exact absurd rfl (not_mark_of_decimal hs h hrest heq).2.1
  · next heq => exact absurd rfl (not_mark_of_decimal hs h hrest heq).2.2
  · rw [hread, ok_bind]
    dsimp only
    rw [hsigned]
    constructor
    · intro hrange
      rw [if_pos hrange]
      rfl
    · intro hrange
      rw [if_neg hrange]
      exact ⟨_, rfl⟩

theorem readInBase_spaced {n base : Nat} {name : String} {ds cs rest text : List Char}
    (hvalue : SpellsNat base n ds) (hspaced : Spaced ds cs) (hrest : Stops rest) :
    Gives (readInBase base name text (cs ++ rest)) n rest := by
  have hread := someDigits_spaced hspaced hvalue.isDigit rfl (hrest.endsDigits base)
  have hrange : n < UInt64.size / 2 ↔ InRange n := by
    unfold InRange
    omega
  unfold readInBase
  dsimp only
  rw [hread]
  constructor
  · intro hn
    have hbase : inBase base ds = .ok (n : Int) := by
      rw [inBase, hvalue.foldl_eq]
      exact if_pos (hrange.mpr hn)
    simp only [Reading.about, Except.mapError, Reading.check, ok_bind, hbase]
    rfl
  · intro hn
    have hbase : inBase base ds = .error (.number .tooLarge) := by
      rw [inBase, hvalue.foldl_eq]
      exact if_neg (mt hrange.mp hn)
    simp only [Reading.about, Except.mapError, Reading.check, ok_bind, hbase]
    exact ⟨_, rfl⟩

theorem readInteger_spelled {n : Int} {cs rest : List Char} (h : SpellsInteger n cs)
    (hrest : Stops rest) : Gives (readInteger (cs ++ rest)) n rest := by
  cases h with
  | decimal hsign h =>
      rw [List.append_assoc]
      exact readInteger_decimal hsign h hrest
  | based hmark hvalue hspaced =>
      simp only [baseMarks, List.mem_cons, Prod.mk.injEq, List.not_mem_nil, or_false] at hmark
      rcases hmark with ⟨rfl, rfl⟩ | ⟨rfl, rfl⟩ | ⟨rfl, rfl⟩
      · exact readInBase_spaced hvalue hspaced hrest
      · exact readInBase_spaced hvalue hspaced hrest
      · exact readInBase_spaced hvalue hspaced hrest

end Number

/-!
# Values that are numbers
-/

theorem Spaced.not_separator {base n : Nat} {ds cs : List Char} (hspaced : Spaced ds cs)
    (hvalue : SpellsNat base n ds) : forall c, c ∈ cs -> c ≠ '-' ∧ c ≠ ':' := by
  intro c hc
  rcases hspaced.mem c hc with hc | rfl
  · have hdigit := hvalue.isDigit c hc
    constructor
    · rintro rfl
      cases hdigit
    · rintro rfl
      cases hdigit
  · decide

/-- Behind the first character of a number stands no separator of dates and times. -/
theorem SpellsInteger.noSeparator {n : Int} {cs rest : List Char} (h : SpellsInteger n cs)
    (hrest : Stops rest) : DateTime.NoSeparator (cs ++ rest) := by
  cases h with
  | decimal hsign h =>
      cases h with
      | digits hvalue hspaced =>
          have hcs := hspaced.not_separator hvalue
          rcases hsign with rfl | rfl | rfl
          · rcases hspaced.cons_cases with ⟨d, ds', cs', rfl, rfl⟩
            exact DateTime.noSeparator_append (fun c hc => hcs c (List.mem_cons_of_mem d hc)) hrest
          · exact DateTime.noSeparator_append hcs hrest
          · exact DateTime.noSeparator_append hcs hrest
  | @based n base mark ds cs hmark hvalue hspaced =>
      refine DateTime.noSeparator_append ?_ hrest
      have hmarks : forall entry, entry ∈ baseMarks -> entry.1 ≠ '-' ∧ entry.1 ≠ ':' := by
        decide
      intro c hc
      rcases List.mem_cons.mp hc with rfl | hc
      · exact hmarks _ hmark
      · exact hspaced.not_separator hvalue c hc

theorem SpellsInteger.readFloat_passes {n : Int} {cs rest : List Char} (h : SpellsInteger n cs)
    (hrest : Stops rest) : (Number.readFloat (cs ++ rest)).Passes := by
  cases h with
  | @decimal n s cs hsign h =>
      have hstops : forall c, c ∈ stops -> c ≠ 'e' ∧ c ≠ 'E' ∧ c ≠ '.' := by
        simp [stops]
      rcases h.cons_cases with ⟨d, cs', rfl, hd⟩
      rcases Number.exists_readSigned hsign h hrest with ⟨ds, -, -, hread⟩
      rw [List.append_assoc]
      exact Number.readFloat_passes hsign hd hread fun c hc => hstops c (hrest c hc)
  | @based n base mark ds cs hmark hvalue hspaced =>
      have hmarks : forall entry, entry ∈ baseMarks ->
          entry.1 ≠ 'e' ∧ entry.1 ≠ 'E' ∧ entry.1 ≠ '.' := by
        decide
      have hread : Number.readSigned ([] ++ '0' :: (mark :: cs ++ rest)) =
          .ok (([], ['0']), mark :: cs ++ rest) := rfl
      refine Number.readFloat_passes (Or.inl rfl) rfl hread ?_
      intro c hc
      cases hc
      exact hmarks _ hmark

theorem readNumeric_eq {text : List Char} (h : DateTime.NoSeparator text)
    (hfloat : (Number.readFloat text).Passes) :
    readNumeric text = (do
      let (n, rest) ← Number.readInteger text
      return (.integer n, rest)) := by
  unfold readNumeric
  dsimp only
  rw [((DateTime.read_passes h).bind _).orElse_eq, (hfloat.bind _).orElse_eq]

/-- What begins with a sign or a digit is read as a number. -/
theorem readValue_eq_readNumeric {c : Char} (hc : c = '+' ∨ c = '-' ∨ c.isDigit = true)
    (text : List Char) (depth : Nat) : readValue depth (c :: text) = readNumeric (c :: text) := by
  have hothers : forall d, d ∈ ['"', '\'', '[', '\x7b', 't', 'f', 'i', 'n', '_', '.'] ->
      ¬ (d = '+' ∨ d = '-' ∨ d.isDigit = true) := by
    simp
  have hne {d : Char} {rest : List Char} (heq : c :: text = d :: rest)
      (hd : d ∈ ['"', '\'', '[', '\x7b', 't', 'f', 'i', 'n', '_', '.']) : False := by
    cases heq
    exact hothers c hd hc
  have hscalar : readScalar (c :: text) = readNumeric (c :: text) := by
    unfold readScalar
    split
    · next heq => cases heq
    iterate 6 next heq => exact (hne heq (by simp)).elim
    · next heq =>
      cases heq
      exact if_pos hc
  unfold readValue
  split
  iterate 4 next heq => exact (hne heq (by simp)).elim
  · exact hscalar

theorem SpellsInteger.cons_cases {n : Int} {cs : List Char} (h : SpellsInteger n cs) :
    exists c cs', cs = c :: cs' ∧ (c = '+' ∨ c = '-' ∨ c.isDigit = true) := by
  cases h with
  | decimal hsign h =>
      rcases hsign with rfl | rfl | rfl
      · rcases h.cons_cases with ⟨d, cs', rfl, hd⟩
        exact ⟨d, cs', rfl, Or.inr (Or.inr hd)⟩
      · exact ⟨'+', _, rfl, Or.inl rfl⟩
      · exact ⟨'-', _, rfl, Or.inr (Or.inl rfl)⟩
  | based => exact ⟨'0', _, rfl, Or.inr (Or.inr rfl)⟩

/-- A number in front of the end of a line is read as a whole number. -/
theorem readValue_integer {n : Int} {cs rest : List Char} (h : SpellsInteger n cs)
    (hrest : Stops rest) (depth : Nat) :
    readValue depth (cs ++ rest) = (do
      let (n, rest) ← Number.readInteger (cs ++ rest)
      return (.integer n, rest)) := by
  rw [← readNumeric_eq (h.noSeparator hrest) (h.readFloat_passes hrest)]
  rcases h.cons_cases with ⟨c, cs', rfl, hc⟩
  exact readValue_eq_readNumeric hc (cs' ++ rest) depth

/-!
# Numbers that are written
-/

theorem spellsNat_toDigits (n : Nat) : SpellsNat 10 n (Nat.toDigits 10 n) := by
  have hdigit : forall v, v < 10 -> Bytes.hexValue? (Nat.digitChar v) = some v := by
    decide
  induction n using Nat.strong_induction_on with
  | h n ih =>
      by_cases hlt : n < 10
      · have hone := SpellsNat.snoc .nil (hdigit n hlt) hlt
        rw [Nat.toDigits_of_lt_base hlt]
        simpa using hone
      · have hmore := SpellsNat.snoc (ih (n / 10) (by omega)) (hdigit (n % 10) (by omega))
          (Nat.mod_lt n (by decide))
        rw [Nat.toDigits_of_base_le (by decide) (by omega)]
        rwa [Nat.div_add_mod'] at hmore

theorem spaced_self {ds : List Char} (h : ds ≠ []) : Spaced ds ds := by
  induction ds with
  | nil => exact absurd rfl h
  | cons d ds ih =>
      cases ds with
      | nil => exact .last d
      | cons e ds => exact .next d (ih (List.cons_ne_nil e ds))

theorem spellsInteger_toDigits (n : Nat) : SpellsInteger n (Nat.toDigits 10 n) :=
  .decimal (Or.inl rfl) (.digits (spellsNat_toDigits n) (spaced_self Nat.toDigits_ne_nil)
    (Json.whole_toDigits n).leading)

end Toml
end FixtureProbe
