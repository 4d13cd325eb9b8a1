import BenchCampaign.Proofs.Binary64.Denotation
import BenchCampaign.Proofs.Binary64.Size
import BenchCampaign.Proofs.Settings.GuessedSpeed
import BenchCampaign.Proofs.Settings.ProjectedTime

/-!
# Coefficients are relative to the fastest driver

A coefficient is the quotient of a driver's time by the smallest positive one.  Both times are
converted, which rounds them, and their quotient is rounded again.  All that is needed of rounding
is that it keeps the order and one: then a coefficient is at least one, it is one for the fastest
driver, and coefficients are in the order of the times.  The divisor is never zero, whatever the
baseline is.

* `RoundedQuotients`: what is asked of an arithmetic.
* `Coefficients.get?_ofBaseline_eq_some_iff`: the coefficients of a baseline.
* `Coefficients.IsRelative`: what coefficients say of a baseline.
* `Coefficients.ofBaseline_eq_of_div_eq`: no divisor is zero.
* `Coefficients.isRelative_ofBaseline`: both, in any arithmetic and in doubles.
-/

namespace BenchCampaign

/-- Numbers that stand for exact ones, where conversions from 64 bits and quotients are exact
results, rounded.  Rounding keeps the order and one; nothing else is asked of it. -/
structure RoundedQuotients (α : Type) [Arithmetic α] where
  Denotes : α → ℚ → Prop
  round : ℚ → ℚ
  monotone : ∀ {p q}, 0 ≤ p → p ≤ q → round p ≤ round q
  one : round 1 = 1
  ofNat : ∀ {n : ℕ}, n < 2 ^ 64 → Denotes (Arithmetic.ofNat n) (round n)
  /-- Quotients are only asked for up to what the first number of more than 64 bits is rounded
  to. -/
  div : ∀ {x y p q}, Denotes x p → Denotes y q → q ≠ 0 → 0 ≤ p / q → p / q ≤ round (2 ^ 64) →
    Denotes (x / y) (round (p / q))

namespace RoundedQuotients

variable {α : Type} [Arithmetic α] (r : RoundedQuotients α)

/-- What the first number stands for is at most what the second one stands for. -/
def AtMost (x y : α) : Prop := ∃ p q, r.Denotes x p ∧ r.Denotes y q ∧ p ≤ q

/-- What the quotient of two natural numbers stands for. -/
def quotient (n d : ℕ) : ℚ := r.round (r.round n / r.round d)

variable {r} {n n' d : ℕ}

theorem round_natCast_le (le : n ≤ n') : r.round n ≤ r.round n' :=
  r.monotone (Nat.cast_nonneg n) (Nat.cast_le.2 le)

theorem one_le_round (pos : 0 < n) : 1 ≤ r.round n := by
  have least := r.round_natCast_le pos
  rwa [Nat.cast_one, r.one] at least

theorem round_div_nonneg (pos : 0 < n) (pos' : 0 < d) : 0 ≤ r.round n / r.round d :=
  div_nonneg (zero_le_one.trans (one_le_round pos)) (zero_le_one.trans (one_le_round pos'))

theorem denotes_quotient (pos : 0 < d) (le : d ≤ n) (bounded : n < 2 ^ 64) :
    r.Denotes (Arithmetic.ofNat n / Arithmetic.ofNat d) (r.quotient n d) := by
  have one := one_le_round (r := r) pos
  have positive : 0 < r.round d := one_pos.trans_le one
  have limit : r.round n ≤ r.round (2 ^ 64) :=
    r.monotone (Nat.cast_nonneg n) (by exact_mod_cast bounded.le)
  have nonneg := one_pos.le.trans (one_le_round (r := r) (pos.trans_le le))
  refine r.div (r.ofNat bounded) (r.ofNat (le.trans_lt bounded)) positive.ne'
    (round_div_nonneg (pos.trans_le le) pos) ?_
  exact (div_le_self nonneg one).trans limit

theorem denotes_one (r : RoundedQuotients α) : r.Denotes (Arithmetic.ofNat 1) 1 := by
  have one := r.ofNat (n := 1) (by decide)
  rwa [Nat.cast_one, r.one] at one

theorem one_le_quotient (pos : 0 < d) (le : d ≤ n) : 1 ≤ r.quotient n d := by
  have positive : 0 < r.round d := one_pos.trans_le (one_le_round pos)
  rw [← r.one]
  exact r.monotone zero_le_one ((one_le_div positive).2 (round_natCast_le le))

theorem quotient_mono (pos : 0 < n) (pos' : 0 < d) (le : n ≤ n') :
    r.quotient n d ≤ r.quotient n' d := by
  have positive : 0 < r.round d := one_pos.trans_le (one_le_round pos')
  exact r.monotone (round_div_nonneg pos pos')
    (div_le_div_of_nonneg_right (round_natCast_le le) positive.le)

theorem quotient_self (pos : 0 < n) : r.quotient n n = 1 := by
  have positive : 0 < r.round n := one_pos.trans_le (one_le_round pos)
  rw [quotient, div_self positive.ne', r.one]

end RoundedQuotients

/-! ## The coefficients of a baseline -/

namespace Baseline

variable {b : Baseline} {fastest : UInt64}

theorem mem_references_iff_get? (distinct : b.names.Nodup) {name : String} {time : UInt64} :
    (name, time) ∈ b.references ↔ b.get? name = some time ∧ 0 < time := by
  rw [mem_references, NameTable.get?_eq_some_iff distinct, UInt64.pos_iff_ne_zero]

theorem mem_times_iff (distinct : b.names.Nodup) {time : UInt64} :
    time ∈ b.references.map Prod.snd ↔ (∃ name, b.get? name = some time) ∧ 0 < time := by
  rw [List.mem_map, Prod.exists]
  simp only [mem_references_iff_get? distinct, exists_eq_right, exists_and_right]

/-- The smallest positive time is one of a driver, and no positive time is less. -/
theorem fastest?_eq_some_iff (distinct : b.names.Nodup) :
    b.fastest? = some fastest ↔
      (∃ name, b.get? name = some fastest) ∧ 0 < fastest ∧
        ∀ name time, b.get? name = some time → 0 < time → fastest ≤ time := by
  rw [fastest?, List.min?_eq_some_iff, mem_times_iff distinct, and_assoc]
  refine and_congr_right fun _ => and_congr_right fun _ => ?_
  constructor
  · intro least name time given pos
    exact least time ((mem_times_iff distinct).2 ⟨⟨name, given⟩, pos⟩)
  · rintro least time listed
    obtain ⟨⟨name, given⟩, pos⟩ := (mem_times_iff distinct).1 listed
    exact least name time given pos

/-- Where a time is positive, there is a smallest one. -/
theorem exists_fastest (distinct : b.names.Nodup) {name : String} {time : UInt64}
    (given : b.get? name = some time) (pos : 0 < time) :
    ∃ fastest, b.fastest? = some fastest ∧ 0 < fastest ∧ fastest ≤ time := by
  cases found : b.fastest? with
  | none =>
    have listed := (mem_references_iff_get? distinct).2 ⟨given, pos⟩
    rw [fastest?_eq_none_iff.1 found] at listed
    cases listed
  | some fastest =>
    obtain ⟨-, pos', least⟩ := (fastest?_eq_some_iff distinct).1 found
    exact ⟨fastest, rfl, pos', least name time given pos⟩

end Baseline

namespace Coefficients

/-- Each time that a driver without coefficient is looked up, it is reported once. -/
theorem flatMap_reports {α : Type} (c : Coefficients α) (names : List String) :
    names.flatMap c.reports =
      (names.filter fun name => (c.get? name).isNone).map GuessedCoefficient.mk := by
  induction names with
  | nil => rfl
  | cons name names ih =>
    rw [List.flatMap_cons, ih, reports, NameTable.contains, List.filter_cons]
    cases c.get? name <;> rfl

section

variable {α : Type} [Arithmetic α] {b : Baseline} {name : String} {x : α}

theorem nodup_names_ofBaseline (distinct : b.names.Nodup) :
    (ofBaseline b : Coefficients α).names.Nodup := by
  rw [names_ofBaseline]
  exact (List.filter_sublist.map Prod.fst).nodup distinct

/-- A coefficient is the quotient of a positive time by the smallest one. -/
theorem get?_ofBaseline_eq_some_iff (distinct : b.names.Nodup) :
    (ofBaseline b : Coefficients α).get? name = some x ↔
      ∃ time fastest, b.get? name = some time ∧ 0 < time ∧ b.fastest? = some fastest ∧
        x = Arithmetic.ofNat time.toNat / Arithmetic.ofNat fastest.toNat := by
  rw [NameTable.get?_eq_some_iff (nodup_names_ofBaseline distinct), ofBaseline]
  cases found : b.fastest? with
  | none => simp [NameTable.empty]
  | some fastest =>
    simp only [List.mem_map, Prod.exists, Prod.mk.injEq, Option.some.injEq]
    constructor
    · rintro ⟨name', time, listed, rfl, rfl⟩
      obtain ⟨given, pos⟩ := (Baseline.mem_references_iff_get? distinct).1 listed
      exact ⟨time, fastest, given, pos, rfl, rfl⟩
    · rintro ⟨time, _, given, pos, rfl, rfl⟩
      exact ⟨name, time, (Baseline.mem_references_iff_get? distinct).2 ⟨given, pos⟩, rfl, rfl⟩

theorem exists_times_of_get? (distinct : b.names.Nodup)
    (found : (ofBaseline b : Coefficients α).get? name = some x) :
    ∃ time fastest, b.get? name = some time ∧ 0 < fastest ∧ fastest ≤ time ∧
      x = Arithmetic.ofNat time.toNat / Arithmetic.ofNat fastest.toNat := by
  obtain ⟨time, fastest, given, pos, least, rfl⟩ := (get?_ofBaseline_eq_some_iff distinct).1 found
  obtain ⟨fastest', least', pos', le⟩ := Baseline.exists_fastest distinct given pos
  obtain rfl := Option.some.inj (least.symm.trans least')
  exact ⟨time, fastest, given, pos', le, rfl⟩

/-- A driver with a positive time has a coefficient. -/
theorem get?_ofBaseline_of_pos (distinct : b.names.Nodup) {time : UInt64}
    (given : b.get? name = some time) (pos : 0 < time) :
    ∃ fastest, b.fastest? = some fastest ∧ 0 < fastest ∧ fastest ≤ time ∧
      (ofBaseline b : Coefficients α).get? name =
        some (Arithmetic.ofNat time.toNat / Arithmetic.ofNat fastest.toNat) := by
  obtain ⟨fastest, found, pos', le⟩ := Baseline.exists_fastest distinct given pos
  exact ⟨fastest, found, pos', le,
    (get?_ofBaseline_eq_some_iff distinct).2 ⟨time, fastest, given, pos, found, rfl⟩⟩

theorem isSome_get?_ofBaseline_iff (distinct : b.names.Nodup) :
    ((ofBaseline b : Coefficients α).get? name).isSome = true ↔
      ∃ time, b.get? name = some time ∧ 0 < time := by
  rw [Option.isSome_iff_exists]
  constructor
  · rintro ⟨x, found⟩
    obtain ⟨time, -, given, pos, -⟩ := (get?_ofBaseline_eq_some_iff distinct).1 found
    exact ⟨time, given, pos⟩
  · rintro ⟨time, given, pos⟩
    obtain ⟨fastest, -, -, -, found⟩ := get?_ofBaseline_of_pos (α := α) distinct given pos
    exact ⟨_, found⟩

end

/-! ## What coefficients say -/

/-- Coefficients compare the drivers of a baseline with the fastest one, in some order and with
some numbers that are one. -/
structure IsRelative {α : Type} [Arithmetic α] (le : α → α → Prop) (isOne : α → Prop)
    (b : Baseline) (c : Coefficients α) : Prop where
  one_le : ∀ {name x}, c.get? name = some x → le (Arithmetic.ofNat 1) x
  fastest : ∀ {name time}, b.get? name = some time → 0 < time →
    (∀ name' time', b.get? name' = some time' → 0 < time' → time ≤ time') →
      ∃ x, c.get? name = some x ∧ isOne x
  ordered : ∀ {name name' time time'}, b.get? name = some time → b.get? name' = some time' →
    0 < time → time ≤ time' →
      ∃ x x', c.get? name = some x ∧ c.get? name' = some x' ∧ le x x'
  isSome_iff : ∀ name, (c.get? name).isSome = true ↔ ∃ time, b.get? name = some time ∧ 0 < time
  factor_of_some : ∀ {name x}, c.get? name = some x → c.factor name = x
  factor_of_none : ∀ {name}, c.get? name = none → isOne (c.factor name)
  reports : ∀ names : List String, names.flatMap c.reports =
    (names.filter fun name => (c.get? name).isNone).map GuessedCoefficient.mk

theorem IsRelative.mono {α : Type} [Arithmetic α] {le le' : α → α → Prop}
    {isOne isOne' : α → Prop} {b : Baseline} {c : Coefficients α}
    (relative : IsRelative le isOne b c) (order : ∀ x y, le x y → le' x y)
    (one : ∀ x, isOne x → isOne' x) : IsRelative le' isOne' b c where
  one_le found := order _ _ (relative.one_le found)
  fastest given pos least := by
    obtain ⟨x, found, isOne⟩ := relative.fastest given pos least
    exact ⟨x, found, one x isOne⟩
  ordered given given' pos less := by
    obtain ⟨x, x', found, found', le⟩ := relative.ordered given given' pos less
    exact ⟨x, x', found, found', order _ _ le⟩
  isSome_iff := relative.isSome_iff
  factor_of_some := relative.factor_of_some
  factor_of_none missing := one _ (relative.factor_of_none missing)
  reports := relative.reports

section

variable {α : Type} [Arithmetic α] {b : Baseline}

theorem denotes_times (r : RoundedQuotients α) {time fastest : UInt64} (pos : 0 < fastest)
    (le : fastest ≤ time) :
    r.Denotes (Arithmetic.ofNat time.toNat / Arithmetic.ofNat fastest.toNat)
      (r.quotient time.toNat fastest.toNat) :=
  RoundedQuotients.denotes_quotient (UInt64.lt_iff_toNat_lt.1 pos) (UInt64.le_iff_toNat_le.1 le)
    time.toNat_lt

/-- Where quotients are rounded, coefficients are relative to the fastest driver. -/
theorem isRelative_of_rounded (r : RoundedQuotients α) (distinct : b.names.Nodup) :
    IsRelative r.AtMost (r.Denotes · 1) b (ofBaseline b) where
  one_le found := by
    obtain ⟨time, fastest, given, pos, le, rfl⟩ := exists_times_of_get? distinct found
    exact ⟨1, _, r.denotes_one, denotes_times r pos le,
      RoundedQuotients.one_le_quotient (UInt64.lt_iff_toNat_lt.1 pos) (UInt64.le_iff_toNat_le.1 le)⟩
  fastest given pos least := by
    obtain ⟨fastest, found, pos', le, quotient⟩ :=
      get?_ofBaseline_of_pos (α := α) distinct given pos
    obtain ⟨⟨name, smallest⟩, -, -⟩ := (Baseline.fastest?_eq_some_iff distinct).1 found
    obtain rfl := UInt64.le_antisymm (least name fastest smallest pos') le
    refine ⟨_, quotient, ?_⟩
    have one := denotes_times r pos (UInt64.le_refl _)
    rwa [RoundedQuotients.quotient_self (UInt64.lt_iff_toNat_lt.1 pos)] at one
  ordered given given' pos less := by
    obtain ⟨fastest, found, pos', le, quotient⟩ :=
      get?_ofBaseline_of_pos (α := α) distinct given pos
    obtain ⟨other, found', -, le', quotient'⟩ :=
      get?_ofBaseline_of_pos (α := α) distinct given' (UInt64.lt_of_lt_of_le pos less)
    obtain rfl := Option.some.inj (found.symm.trans found')
    refine ⟨_, _, quotient, quotient', _, _, denotes_times r pos' le, denotes_times r pos' le', ?_⟩
    exact RoundedQuotients.quotient_mono (UInt64.lt_iff_toNat_lt.1 pos)
      (UInt64.lt_iff_toNat_lt.1 pos') (UInt64.le_iff_toNat_le.1 less)
  isSome_iff name := isSome_get?_ofBaseline_iff distinct
  factor_of_some found := by rw [factor, found, Option.getD_some]
  factor_of_none missing := by
    rw [factor, missing, Option.getD_none]
    exact r.denotes_one
  reports := flatMap_reports (ofBaseline b)

/-- Whatever quotients by zero are, coefficients are the same: no divisor is zero. -/
theorem ofBaseline_eq_of_div_eq (r : RoundedQuotients α) (divide : α → α → α)
    (agree : ∀ x y q, r.Denotes y q → q ≠ 0 → divide x y = x / y) (b : Baseline) :
    @ofBaseline α { ‹Arithmetic α› with div := divide } b = ofBaseline b := by
  unfold ofBaseline
  cases found : b.fastest? with
  | none => rfl
  | some fastest =>
    have pos := UInt64.lt_iff_toNat_lt.1 (Baseline.fastest_pos found)
    have nonzero : r.round fastest.toNat ≠ 0 :=
      (one_pos.trans_le (RoundedQuotients.one_le_round pos)).ne'
    have divided (x : α) : divide x (Arithmetic.ofNat fastest.toNat) =
        x / Arithmetic.ofNat fastest.toNat :=
      agree x _ _ (r.ofNat fastest.toNat_lt) nonzero
    refine congrArg NameTable.mk (List.map_congr_left fun e _ => ?_)
    exact congrArg (Prod.mk e.1) (divided _)

end

end Coefficients

/-! ## Doubles -/

namespace Binary64

/-- Doubles are computed with by rounding quotients. -/
def quotients : RoundedQuotients Float where
  Denotes x q := Denotes x (q : WithTop ℚ)
  round := nearestNumber
  monotone _ le := nearestNumber_mono le
  one := by simpa using nearestNumber_two_pow 0
  ofNat {n} bounded := by
    have le : (n : ℚ) ≤ 2 ^ 64 := by exact_mod_cast bounded.le
    rw [← nearestValue_of_le le]
    exact denotes_ofNat bounded
  div first second nonzero _ le := by
    rw [nearestNumber_two_pow] at le
    rw [← nearestValue_of_le le]
    exact Denotes.div nonzero first second

end Binary64

namespace Coefficients

/-- **Coefficients are relative to the fastest driver, in doubles too.**  Where conversions and
quotients are the exact results, rounded, and rounding keeps the order and one, a coefficient is
there exactly for a positive time, is at least one, is one for the smallest positive time and not
less for a greater time; a name without a coefficient counts as one, and each of its look-ups is
reported.  What a quotient by zero is does not matter.  Doubles are such numbers. -/
theorem isRelative_ofBaseline (b : Baseline) (distinct : b.names.Nodup) :
    (∀ {α : Type} [Arithmetic α] (r : RoundedQuotients α),
      IsRelative r.AtMost (r.Denotes · 1) b (ofBaseline b) ∧
      ∀ divide : α → α → α, (∀ x y q, r.Denotes y q → q ≠ 0 → divide x y = x / y) →
        @ofBaseline α { ‹Arithmetic α› with div := divide } b = ofBaseline b) ∧
    IsRelative (· ≤ ·) (· = (1.0 : Float)) b (ofBaseline b) ∧
    ∀ divide : Float → Float → Float, (∀ x y, 0 < y → divide x y = x / y) →
      @ofBaseline Float { (inferInstance : Arithmetic Float) with div := divide } b =
        ofBaseline b := by
  refine ⟨fun r => ⟨isRelative_of_rounded r distinct, fun divide agree =>
    ofBaseline_eq_of_div_eq r divide agree b⟩, ?_, ?_⟩
  · have rounded := isRelative_of_rounded Binary64.quotients distinct
    refine rounded.mono ?_ ?_
    · rintro x y ⟨p, q, first, second, le⟩
      exact Binary64.le_of_denotes first second (WithTop.coe_le_coe.2 le)
    · intro x one
      have literal : (Arithmetic.ofNat 1 : Float) = 1.0 := by decide +kernel
      exact literal ▸ Binary64.eq_of_denotes one_ne_zero one Binary64.quotients.denotes_one
  · intro divide agree
    exact ofBaseline_eq_of_div_eq Binary64.quotients divide
      (fun x y q denotes nonzero => agree x y (Binary64.pos_of_denotes nonzero denotes)) b

/-- Two drivers with a time, of which one takes three times as long, and one with a time of
zero. -/
theorem isRelative_zeroTime :
    let b : Baseline := ⟨[("a", 9), ("b", 0), ("c", 3)]⟩
    let c : Coefficients Float := ofBaseline b
    b.names.Nodup ∧ c.get? "c" = some 1.0 ∧
      (∃ x x', c.get? "c" = some x ∧ c.get? "a" = some x' ∧ x ≤ x') ∧
      c.get? "b" = none ∧ c.factor "b" = 1.0 ∧
      ["b", "a", "b"].flatMap c.reports = [⟨"b"⟩, ⟨"b"⟩] ∧
      ∀ divide : Float → Float → Float, (∀ x y, 0 < y → divide x y = x / y) →
        @ofBaseline Float { (inferInstance : Arithmetic Float) with div := divide } b = c := by
  intro b c
  have distinct : b.names.Nodup := by decide
  obtain ⟨-, relative, undivided⟩ := isRelative_ofBaseline b distinct
  have missing : c.get? "b" = none := rfl
  have times : ∀ e ∈ b.entries, 0 < e.2 → 3 ≤ e.2 := by decide
  have least (name : String) (time : UInt64) (given : b.get? name = some time) (pos : 0 < time) :
      3 ≤ time :=
    times (name, time) ((NameTable.get?_eq_some_iff distinct).1 given) pos
  have given : b.get? "c" = some 3 := rfl
  obtain ⟨x, found, one⟩ := relative.fastest given (by decide) least
  refine ⟨distinct, one ▸ found, ?_, missing, relative.factor_of_none missing,
    relative.reports _, undivided⟩
  exact relative.ordered given rfl (by decide) (by decide)

end Coefficients

end BenchCampaign
