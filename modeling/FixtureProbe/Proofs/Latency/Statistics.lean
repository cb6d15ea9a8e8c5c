import FixtureProbe.Latency.Stats

/-!
# What statistics say about durations

The least and the greatest of some durations are among them and bound all of them, so their mean lies
in between. It is exact as long as the 32 bits of the divisor hold the number of the durations. The
order in which the durations were taken plays no part in any of this, nor in whether their total is
still a duration.
-/

namespace FixtureProbe

/-!
# Durations
-/

namespace Duration

theorem seconds_mul_add_subsecNanos (d : Duration) :
    d.seconds * nanosPerSecond + d.subsecNanos = d.nanos := by
  rw [seconds, subsecNanos, Nat.mul_comm]
  exact Nat.div_add_mod _ _

theorem seconds_lt (d : Duration) : d.seconds < UInt64.size := by
  have hlt := d.nanos_lt
  rw [limit, Nat.mul_comm] at hlt
  exact Nat.div_lt_of_lt_mul hlt

theorem subsecNanos_lt (d : Duration) : d.subsecNanos < nanosPerSecond :=
  Nat.mod_lt _ (by decide)

/-- Durations are compared by their seconds, and by what is beyond these if the seconds agree. -/
theorem le_iff_seconds (a b : Duration) :
    a ≤ b ↔ a.seconds < b.seconds ∨ a.seconds = b.seconds ∧ a.subsecNanos ≤ b.subsecNanos := by
  change a.nanos ≤ b.nanos ↔ _
  unfold seconds subsecNanos nanosPerSecond
  omega

theorem nanos_ofNanos {n : Nat} (h : n < limit) : (ofNanos n).nanos = n := by
  rw [ofNanos, dif_pos h]

instance : Std.IsLinearOrder Duration where
  le_refl d := Nat.le_refl d.nanos
  le_trans _ _ _ := Nat.le_trans
  le_antisymm _ _ hab hba := Duration.ext (Nat.le_antisymm hab hba)
  le_total a b := Nat.le_total a.nanos b.nanos

instance : Std.LawfulOrderMin Duration where
  min_eq_or a b := by
    by_cases h : a ≤ b
    · exact Or.inl (if_pos h)
    · exact Or.inr (if_neg h)
  le_min_iff a b c := by
    change a ≤ (if b ≤ c then b else c) ↔ _
    change _ ↔ a.nanos ≤ b.nanos ∧ a.nanos ≤ c.nanos
    split
    · next h =>
      change b.nanos ≤ c.nanos at h
      change a.nanos ≤ b.nanos ↔ _
      omega
    · next h =>
      change ¬ b.nanos ≤ c.nanos at h
      change a.nanos ≤ c.nanos ↔ _
      omega

instance : Std.LawfulOrderMax Duration where
  max_eq_or a b := by
    by_cases h : a ≤ b
    · exact Or.inr (if_pos h)
    · exact Or.inl (if_neg h)
  max_le_iff a b c := by
    change (if a ≤ b then b else a) ≤ c ↔ _
    change _ ↔ a.nanos ≤ c.nanos ∧ b.nanos ≤ c.nanos
    split
    · next h =>
      change a.nanos ≤ b.nanos at h
      change b.nanos ≤ c.nanos ↔ _
      omega
    · next h =>
      change ¬ a.nanos ≤ b.nanos at h
      change a.nanos ≤ c.nanos ↔ _
      omega

end Duration

namespace LatencyStats

/-!
# The total
-/

/-- The total of some durations, each taken by its seconds and by the nanoseconds beyond these. -/
def total (durations : List Duration) : Nat :=
  durations.foldr (fun d n => d.seconds * nanosPerSecond + d.subsecNanos + n) 0

variable {durations other : List Duration}

theorem totalNanos_cons (d : Duration) (rest : List Duration) :
    totalNanos (d :: rest) = d.nanos + totalNanos rest :=
  rfl

theorem totalNanos_eq_total (durations : List Duration) :
    totalNanos durations = total durations := by
  unfold totalNanos total
  simp only [Duration.seconds_mul_add_subsecNanos]

theorem length_mul_le_totalNanos {least : Duration} (h : forall d, d ∈ durations -> least ≤ d) :
    durations.length * least.nanos ≤ totalNanos durations := by
  induction durations with
  | nil => simp [totalNanos]
  | cons d rest ih =>
      have hd : least.nanos ≤ d.nanos := h d List.mem_cons_self
      have hrest := ih fun e he => h e (List.mem_cons_of_mem d he)
      rw [totalNanos_cons, List.length_cons, Nat.succ_mul]
      omega

theorem totalNanos_le_length_mul {greatest : Duration}
    (h : forall d, d ∈ durations -> d ≤ greatest) :
    totalNanos durations ≤ durations.length * greatest.nanos := by
  induction durations with
  | nil => simp [totalNanos]
  | cons d rest ih =>
      have hd : d.nanos ≤ greatest.nanos := h d List.mem_cons_self
      have hrest := ih fun e he => h e (List.mem_cons_of_mem d he)
      rw [totalNanos_cons, List.length_cons, Nat.succ_mul]
      omega

theorem totalNanos_perm (h : durations.Perm other) : totalNanos durations = totalNanos other := by
  induction h with
  | nil => rfl
  | cons d h ih => rw [totalNanos_cons, totalNanos_cons, ih]
  | swap d e rest =>
      simp only [totalNanos_cons]
      omega
  | trans _ _ ih ih' => exact ih.trans ih'

/-- A total is a duration as long as its seconds fit 64 bits. -/
theorem limit_le_totalNanos_iff (durations : List Duration) :
    Duration.limit ≤ totalNanos durations ↔
      UInt64.size ≤ totalNanos durations / nanosPerSecond := by
  have hpos : 0 < nanosPerSecond := by decide
  exact (Nat.le_div_iff_mul_le hpos).symm

/-!
# The extremes
-/

theorem min?_perm (h : durations.Perm other) : durations.min? = other.min? := by
  apply Option.ext
  intro least
  simp only [List.min?_eq_some_iff, h.mem_iff]

theorem max?_perm (h : durations.Perm other) : durations.max? = other.max? := by
  apply Option.ext
  intro greatest
  simp only [List.max?_eq_some_iff, h.mem_iff]

/-!
# The mean
-/

theorem toNat_divisor (h : durations.length < UInt32.size) :
    (divisor durations).toNat = durations.length := by
  rw [divisor, UInt32.toNat_ofNat']
  exact Nat.mod_eq_of_lt h

theorem divisor_ne_zero (h : durations.length < UInt32.size) (hne : durations ≠ []) :
    divisor durations ≠ 0 := by
  intro hzero
  have hlength := toNat_divisor h
  rw [hzero] at hlength
  exact hne (List.eq_nil_of_length_eq_zero hlength.symm)

/-- No mean is cut off: it is at most the greatest duration. -/
theorem nanos_mean (h : durations.length < UInt32.size) :
    (mean durations).nanos = totalNanos durations / durations.length := by
  have hlt : totalNanos durations / durations.length < Duration.limit := by
    let greatest : Duration := ⟨Duration.limit - 1, by decide⟩
    have hle : totalNanos durations ≤ durations.length * greatest.nanos := by
      apply totalNanos_le_length_mul
      intro d hd
      exact Nat.le_sub_one_of_lt d.nanos_lt
    have hdiv := Nat.div_le_of_le_mul hle
    exact Nat.lt_of_le_of_lt hdiv greatest.nanos_lt
  rw [mean, toNat_divisor h, Duration.nanos_ofNanos hlt]

theorem mean_perm (h : durations.Perm other) : mean durations = mean other := by
  rw [mean, mean, divisor, divisor, h.length_eq, totalNanos_perm h]

/-!
# Statistics
-/

/-- What statistics have to say about the durations that they were made of. -/
structure Summarises (durations : List Duration) (stats : LatencyStats) : Prop where
  samples : stats.samples = durations.length
  min_mem : stats.min ∈ durations
  min_le : forall d, d ∈ durations -> stats.min ≤ d
  max_mem : stats.max ∈ durations
  le_max : forall d, d ∈ durations -> d ≤ stats.max
  /-- The mean is the total divided by the number, without the remainder. -/
  average : stats.average.seconds * nanosPerSecond + stats.average.subsecNanos =
    total durations / durations.length
  seconds_lt : stats.average.seconds < UInt64.size
  subsecNanos_lt : stats.average.subsecNanos < nanosPerSecond
  min_le_average : stats.min ≤ stats.average
  average_le_max : stats.average ≤ stats.max

theorem ofSamples_eq_none_iff : ofSamples durations = none ↔ durations = [] := by
  cases durations with
  | nil => simp [ofSamples]
  | cons d rest => simp [ofSamples, List.min?, List.max?]

theorem summarises_of_ofSamples (h : durations.length < UInt32.size) {stats : LatencyStats}
    (hstats : ofSamples durations = some stats) : Summarises durations stats := by
  simp only [ofSamples, bind, Option.bind_eq_some_iff, pure, Option.some.injEq] at hstats
  rcases hstats with ⟨least, hmin, greatest, hmax, rfl⟩
  rcases List.min?_eq_some_iff.mp hmin with ⟨hmin_mem, hmin_le⟩
  rcases List.max?_eq_some_iff.mp hmax with ⟨hmax_mem, hle_max⟩
  have hpos : 0 < durations.length := List.length_pos_of_mem hmin_mem
  have hlower := length_mul_le_totalNanos hmin_le
  have hupper := totalNanos_le_length_mul hle_max
  constructor
  · rfl
  · exact hmin_mem
  · exact hmin_le
  · exact hmax_mem
  · exact hle_max
  · rw [Duration.seconds_mul_add_subsecNanos, nanos_mean h, totalNanos_eq_total]
  · exact Duration.seconds_lt _
  · exact Duration.subsecNanos_lt _
  · change least.nanos ≤ (mean durations).nanos
    rw [nanos_mean h, Nat.le_div_iff_mul_le hpos, Nat.mul_comm]
    exact hlower
  · change (mean durations).nanos ≤ greatest.nanos
    rw [nanos_mean h]
    exact Nat.div_le_of_le_mul hupper

/-!
# Statistics that may not exist
-/

theorem ofSamples?_of_lt (h : durations.length < UInt32.size)
    (htotal : totalNanos durations / nanosPerSecond < UInt64.size) :
    ofSamples? durations = .ok (ofSamples durations) := by
  have hlimit : ¬ Duration.limit ≤ totalNanos durations := by
    rw [limit_le_totalNanos_iff]
    exact Nat.not_le_of_lt htotal
  cases durations with
  | nil => rfl
  | cons d rest =>
      rw [ofSamples?, if_neg hlimit, if_neg (divisor_ne_zero h (List.cons_ne_nil d rest))]
      rfl

theorem ofSamples?_of_le (htotal : UInt64.size ≤ totalNanos durations / nanosPerSecond) :
    ofSamples? durations = .error .total := by
  rw [← limit_le_totalNanos_iff] at htotal
  cases durations with
  | nil => exact absurd htotal (by decide)
  | cons d rest =>
      rw [ofSamples?, if_pos htotal]
      rfl

/-- Statistics do not depend on the order in which the durations were taken. -/
theorem ofSamples?_perm (h : durations.Perm other) : ofSamples? durations = ofSamples? other := by
  rw [ofSamples?, ofSamples?, ofSamples, ofSamples, h.isEmpty_eq, divisor, divisor,
    totalNanos_perm h, h.length_eq, min?_perm h, max?_perm h, mean_perm h]

/-- Fewer than 2^32 durations have no statistics exactly if there are none of them, and fail exactly if
the seconds of their total do not fit 64 bits; in all other cases their statistics summarise them. What
comes of them does not depend on their order. -/
theorem ofSamples?_summarises (durations : List Duration)
    (h : durations.length < UInt32.size) :
    (ofSamples? durations = .ok none ↔ durations = []) ∧
    (ofSamples? durations = .error .total ↔
      UInt64.size ≤ total durations / nanosPerSecond) ∧
    Overflow.total.message = "overflow in iter::sum over durations" ∧
    (durations ≠ [] -> total durations / nanosPerSecond < UInt64.size ->
      exists stats, ofSamples? durations = .ok (some stats) ∧ Summarises durations stats) ∧
    forall other, durations.Perm other -> ofSamples? other = ofSamples? durations := by
  rw [← totalNanos_eq_total]
  refine ⟨⟨?_, ?_⟩, ⟨?_, ofSamples?_of_le⟩, rfl, ?_, ?_⟩
  · intro hnone
    by_cases htotal : totalNanos durations / nanosPerSecond < UInt64.size
    · rw [ofSamples?_of_lt h htotal] at hnone
      exact ofSamples_eq_none_iff.mp (Except.ok.inj hnone)
    · rw [ofSamples?_of_le (Nat.le_of_not_lt htotal)] at hnone
      cases hnone
  · rintro rfl
    rfl
  · intro hpanic
    apply Nat.le_of_not_lt
    intro htotal
    rw [ofSamples?_of_lt h htotal] at hpanic
    cases hpanic
  · intro hne htotal
    rw [ofSamples?_of_lt h htotal]
    cases hstats : ofSamples durations with
    | none => exact absurd (ofSamples_eq_none_iff.mp hstats) hne
    | some stats => exact ⟨stats, rfl, summarises_of_ofSamples h hstats⟩
  · intro other hperm
    exact (ofSamples?_perm hperm).symm

/-- A carry takes the total of the second list beyond the longest duration. -/
theorem ofSamples?_summarises_carry :
    let short : List Duration := [.ofParts 1 999999999, .ofParts 0 2, .ofParts 3 0]
    let long : List Duration := [.ofParts 18446744073709551615 999999999, .ofParts 0 1]
    (short.length < UInt32.size ∧ long.length < UInt32.size) ∧
    (exists stats, ofSamples? short = .ok (some stats) ∧ Summarises short stats ∧
      stats.average = .ofParts 1 666666667) ∧
    ofSamples? long = .error .total ∧ ofSamples? long.reverse = .error .total := by
  intro short long
  have hshort : short.length < UInt32.size := by decide
  have hlong : long.length < UInt32.size := by decide
  have hoverflow : ofSamples? long = .error .total :=
    (ofSamples?_summarises long hlong).2.1.mpr (by decide)
  have hreverse := (ofSamples?_summarises long hlong).2.2.2.2 long.reverse
    (List.reverse_perm long).symm
  rcases (ofSamples?_summarises short hshort).2.2.2.1 (by decide) (by decide) with
    ⟨stats, hstats, hsummarises⟩
  have haverage : stats.average = .ofParts 1 666666667 := by
    have hsome : ofSamples short = some stats := by
      rw [ofSamples?_of_lt hshort (by decide)] at hstats
      exact Except.ok.inj hstats
    cases hsome
    decide
  exact ⟨⟨hshort, hlong⟩, ⟨stats, hstats, hsummarises, haverage⟩, hoverflow,
    hreverse.trans hoverflow⟩

end LatencyStats

end FixtureProbe
