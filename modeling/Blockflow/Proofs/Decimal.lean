import Blockflow.Decimal.Shortest
import Mathlib.Algebra.Order.Field.Power
import Mathlib.Algebra.Order.Field.Rat
import Mathlib.Data.Nat.Log
import Mathlib.Tactic.FieldSimp
import Mathlib.Tactic.Linarith
import Mathlib.Tactic.Positivity
import Mathlib.Tactic.Ring

/-!
# Rounding to binary floating-point numbers

The nearest number to a ratio depends on the ratio alone, grows with it, and is the ratio itself
where that is a number of the format.  So a number survives the way to a ratio and back, and one
of the narrow format survives the way to the wide format and back.

* `Binary.value` — the exact value of a magnitude.
* `FloatFormat.binaryPlaces_spec`, `FloatFormat.nearestQuotient_le` — the two parts of rounding.
* **`FloatFormat.roundRatio_mono`** — rounding is monotone.
* **`Binary.ofRatio_self`**, `Binary.convert_self` — a finite number is the nearest to itself.
* **`Binary.convert_convert`** — a finite number of single width read through double width.
-/

namespace Blockflow

namespace FloatFormat

variable {F : FloatFormat} {num den num' den' : Nat}

/-! ## The nearest natural -/

lemma nearestQuotient_mul (m : Nat) (hden : 0 < den) : nearestQuotient (m * den) den = m := by
  simp [nearestQuotient, hden]

lemma div_le_nearestQuotient : num / den ≤ nearestQuotient num den := by
  unfold nearestQuotient
  dsimp only
  split_ifs <;> omega

lemma nearestQuotient_le_div_add_one : nearestQuotient num den ≤ num / den + 1 := by
  unfold nearestQuotient
  dsimp only
  split_ifs <;> omega

/-- The nearest natural grows with the quotient. -/
lemma nearestQuotient_mono (hden : 0 < den) (hden' : 0 < den')
    (h : num * den' ≤ num' * den) : nearestQuotient num den ≤ nearestQuotient num' den' := by
  have hfloor : num / den ≤ num' / den' := by
    rw [Nat.le_div_iff_mul_le hden']
    refine Nat.le_of_mul_le_mul_right ?_ hden
    calc num / den * den' * den = num / den * den * den' := by ring
      _ ≤ num * den' := Nat.mul_le_mul_right _ (Nat.div_mul_le_self num den)
      _ ≤ num' * den := h
  rcases hfloor.lt_or_eq with hlt | heq
  · exact nearestQuotient_le_div_add_one.trans (hlt.trans_le div_le_nearestQuotient)
  · -- With the same whole part, the remainders decide, and they are in the same order.
    have hrest : num % den * den' ≤ num' % den' * den := by
      have hdiv := Nat.div_add_mod num den
      have hdiv' := Nat.div_add_mod num' den'
      rw [← hdiv, ← hdiv', heq] at h
      nlinarith
    unfold nearestQuotient
    simp only [heq]
    split_ifs <;> first | omega | nlinarith

lemma nearestQuotient_mono_of_div_le (hden : 0 < den) (hden' : 0 < den')
    (h : (num / den : ℚ) ≤ num' / den') : nearestQuotient num den ≤ nearestQuotient num' den' := by
  rw [div_le_div_iff₀ (by exact_mod_cast hden) (by exact_mod_cast hden')] at h
  exact nearestQuotient_mono hden hden' (by exact_mod_cast h)

/-! ## Binary places -/

lemma two_zpow_pos (e : ℤ) : (0 : ℚ) < 2 ^ e := zpow_pos (by norm_num) e

lemma two_zpow_ofNat (e : Nat) : (2 : ℚ) ^ (Int.ofNat e) = (Nat.pow 2 e : Nat) := by
  simp

lemma two_zpow_negSucc (e : Nat) : (2 : ℚ) ^ (Int.negSucc e) = 1 / (Nat.pow 2 (e + 1) : Nat) := by
  simp [zpow_negSucc]

/-- The comparison with which the search for the binary places ends. -/
lemma reaches_iff (hden : 0 < den) (e : ℤ) :
    (match e with
      | .ofNat e => decide (den * Nat.pow 2 e ≤ num)
      | .negSucc e => decide (den ≤ num * Nat.pow 2 (e + 1))) = true ↔
      (2 : ℚ) ^ e ≤ num / den := by
  have hden' : (0 : ℚ) < den := by exact_mod_cast hden
  cases e with
  | ofNat e =>
      rw [decide_eq_true_iff, two_zpow_ofNat, le_div_iff₀ hden', mul_comm]
      exact_mod_cast Iff.rfl
  | negSucc e =>
      have hpow : (0 : ℚ) < (Nat.pow 2 (e + 1) : Nat) := by
        exact_mod_cast Nat.pow_pos (by decide)
      rw [decide_eq_true_iff, two_zpow_negSucc, div_le_div_iff₀ hpow hden', one_mul]
      exact_mod_cast Iff.rfl

lemma two_zpow_log2_le {n : Nat} (hn : 0 < n) : (2 : ℚ) ^ (n.log2 : ℤ) ≤ n := by
  rw [zpow_natCast]
  exact_mod_cast Nat.log2_self_le hn.ne'

lemma lt_two_zpow_log2 (n : Nat) : (n : ℚ) < 2 ^ ((n.log2 : ℤ) + 1) := by
  have h : n < 2 ^ (n.log2 + 1) := Nat.lt_log2_self
  exact_mod_cast h

/-- The binary places of a ratio are those of the greatest power of two that is not above it. -/
lemma binaryPlaces_spec (hnum : 0 < num) (hden : 0 < den) :
    (2 : ℚ) ^ binaryPlaces num den ≤ num / den ∧
      (num / den : ℚ) < 2 ^ (binaryPlaces num den + 1) := by
  have hden' : (0 : ℚ) < den := by exact_mod_cast hden
  have hbelow : (2 : ℚ) ^ ((num.log2 : ℤ) - den.log2 - 1) ≤ num / den := by
    rw [le_div_iff₀ hden']
    calc (2 : ℚ) ^ ((num.log2 : ℤ) - den.log2 - 1) * den
        ≤ 2 ^ ((num.log2 : ℤ) - den.log2 - 1) * 2 ^ ((den.log2 : ℤ) + 1) :=
          mul_le_mul_of_nonneg_left (lt_two_zpow_log2 den).le (two_zpow_pos _).le
      _ = 2 ^ (num.log2 : ℤ) := by
          rw [← zpow_add₀ (by norm_num)]
          congr 1
          ring
      _ ≤ num := two_zpow_log2_le hnum
  have habove : (num / den : ℚ) < 2 ^ ((num.log2 : ℤ) - den.log2 + 1) := by
    rw [div_lt_iff₀ hden']
    calc (num : ℚ) < 2 ^ ((num.log2 : ℤ) + 1) := lt_two_zpow_log2 num
      _ = 2 ^ ((num.log2 : ℤ) - den.log2 + 1) * 2 ^ (den.log2 : ℤ) := by
          rw [← zpow_add₀ (by norm_num)]
          congr 1
          ring
      _ ≤ 2 ^ ((num.log2 : ℤ) - den.log2 + 1) * den :=
          mul_le_mul_of_nonneg_left (two_zpow_log2_le hden) (two_zpow_pos _).le
  unfold binaryPlaces
  dsimp only
  split_ifs with hfits
  · exact ⟨(reaches_iff hden _).mp hfits, habove⟩
  · rw [sub_add_cancel]
    exact ⟨hbelow, not_le.mp fun h => hfits ((reaches_iff hden _).mpr h)⟩

/-- Only one power of two is the greatest below a ratio. -/
lemma binaryPlaces_eq {e : ℤ} (hnum : 0 < num) (hden : 0 < den)
    (hle : (2 : ℚ) ^ e ≤ num / den) (hlt : (num / den : ℚ) < 2 ^ (e + 1)) :
    binaryPlaces num den = e := by
  obtain ⟨hle', hlt'⟩ := binaryPlaces_spec hnum hden
  have h1 : e < binaryPlaces num den + 1 :=
    (zpow_lt_zpow_iff_right₀ (by norm_num : (1 : ℚ) < 2)).mp (hle.trans_lt hlt')
  have h2 : binaryPlaces num den < e + 1 :=
    (zpow_lt_zpow_iff_right₀ (by norm_num : (1 : ℚ) < 2)).mp (hle'.trans_lt hlt)
  omega

/-! ## Rounding -/

/-- The exponent of the last place that is kept of a ratio. -/
def place (F : FloatFormat) (num den : Nat) : ℤ :=
  max F.minExponent (binaryPlaces num den - (F.precision - 1 : Nat))

/-- A ratio in units of a place, rounded to the nearest natural. -/
def units (place : ℤ) (num den : Nat) : Nat :=
  nearestQuotient (num * Nat.pow 2 (-place).toNat) (den * Nat.pow 2 place.toNat)

lemma roundRatio_of_pos (hnum : 0 < num) :
    F.roundRatio num den =
      min F.infinity ((F.place num den - F.minExponent).toNat * F.hidden +
        units (F.place num den) num den) := by
  rw [roundRatio, if_neg hnum.ne']
  change min F.infinity ((F.place num den - F.minExponent).toNat * F.hidden +
    match F.place num den with
      | .ofNat e => nearestQuotient num (den * Nat.pow 2 e)
      | .negSucc e => nearestQuotient (num * Nat.pow 2 (e + 1)) den) = _
  cases F.place num den <;> simp [units]

/-- A ratio in units of a place is the ratio divided by the weight of the place. -/
lemma units_ratio (place : ℤ) (num den : Nat) :
    ((num * Nat.pow 2 (-place).toNat : Nat) : ℚ) / (den * Nat.pow 2 place.toNat : Nat) =
      num / den / 2 ^ place := by
  cases place with
  | ofNat e => simp [div_div]
  | negSucc e =>
      rw [two_zpow_negSucc, div_div_eq_mul_div, div_one]
      simp [mul_div_right_comm]

lemma units_den_pos (place : ℤ) (hden : 0 < den) : 0 < den * Nat.pow 2 place.toNat :=
  Nat.mul_pos hden (Nat.pow_pos (by decide))

lemma units_mono {place : ℤ} (hden : 0 < den) (hden' : 0 < den')
    (h : (num / den : ℚ) ≤ num' / den') : units place num den ≤ units place num' den' := by
  refine nearestQuotient_mono_of_div_le (units_den_pos place hden) (units_den_pos place hden') ?_
  rw [units_ratio, units_ratio]
  exact div_le_div_of_nonneg_right h (two_zpow_pos place).le

lemma le_units {place : ℤ} {m : Nat} (hden : 0 < den) (h : (m * 2 ^ place : ℚ) ≤ num / den) :
    m ≤ units place num den := by
  rw [← nearestQuotient_mul m Nat.one_pos]
  refine nearestQuotient_mono_of_div_le Nat.one_pos (units_den_pos place hden) ?_
  rw [units_ratio, le_div_iff₀ (two_zpow_pos place)]
  simpa using h

lemma units_le {place : ℤ} {m : Nat} (hden : 0 < den) (h : (num / den : ℚ) ≤ m * 2 ^ place) :
    units place num den ≤ m := by
  rw [← nearestQuotient_mul m Nat.one_pos]
  refine nearestQuotient_mono_of_div_le (units_den_pos place hden) Nat.one_pos ?_
  rw [units_ratio, div_le_iff₀ (two_zpow_pos place)]
  simpa using h

lemma hidden_eq_zpow (F : FloatFormat) : (F.hidden : ℚ) = 2 ^ ((F.precision - 1 : Nat) : ℤ) := by
  rw [zpow_natCast, hidden]
  norm_cast

lemma hidden_pos (F : FloatFormat) : 0 < F.hidden := Nat.pow_pos (by decide)

/-- What is kept of a ratio has at most the places of the format. -/
lemma units_place_le (hnum : 0 < num) (hden : 0 < den) :
    units (F.place num den) num den ≤ 2 * F.hidden := by
  refine units_le hden ((binaryPlaces_spec hnum hden).2.le.trans ?_)
  have hle : binaryPlaces num den - (F.precision - 1 : Nat) ≤ F.place num den := le_max_right _ _
  have htwo : ((2 * F.hidden : Nat) : ℚ) = 2 ^ (((F.precision - 1 : Nat) : ℤ) + 1) := by
    rw [Nat.cast_mul, hidden_eq_zpow, zpow_add_one₀ (by norm_num)]
    ring
  rw [htwo, ← zpow_add₀ (by norm_num)]
  exact zpow_le_zpow_right₀ (by norm_num) (by omega)

/-- Above the smallest exponent, all places of the format are used. -/
lemma hidden_le_units_place (hnum : 0 < num) (hden : 0 < den)
    (h : F.minExponent < F.place num den) : F.hidden ≤ units (F.place num den) num den := by
  refine le_units hden (le_trans ?_ (binaryPlaces_spec hnum hden).1)
  have hplace : F.place num den = binaryPlaces num den - (F.precision - 1 : Nat) := by
    unfold place at h ⊢
    omega
  rw [hidden_eq_zpow, ← zpow_add₀ (by norm_num), hplace]
  exact zpow_le_zpow_right₀ (by norm_num) (by omega)

lemma place_mono (hnum : 0 < num) (hden : 0 < den) (hnum' : 0 < num') (hden' : 0 < den')
    (h : (num / den : ℚ) ≤ num' / den') : F.place num den ≤ F.place num' den' := by
  have hlt : (2 : ℚ) ^ binaryPlaces num den < 2 ^ (binaryPlaces num' den' + 1) :=
    ((binaryPlaces_spec hnum hden).1.trans h).trans_lt (binaryPlaces_spec hnum' hden').2
  have hplaces := (zpow_lt_zpow_iff_right₀ (by norm_num : (1 : ℚ) < 2)).mp hlt
  unfold place
  omega

/-- **Rounding is monotone.** -/
theorem roundRatio_mono (hden : 0 < den) (hden' : 0 < den') (h : (num / den : ℚ) ≤ num' / den') :
    F.roundRatio num den ≤ F.roundRatio num' den' := by
  rcases Nat.eq_zero_or_pos num with rfl | hnum
  · simp [roundRatio]
  have hnum' : 0 < num' := by
    have hpos : (0 : ℚ) < num / den := div_pos (by exact_mod_cast hnum) (by exact_mod_cast hden)
    by_contra hzero
    obtain rfl : num' = 0 := by omega
    rw [Nat.cast_zero, zero_div] at h
    exact absurd hpos (not_lt.mpr h)
  rw [roundRatio_of_pos hnum, roundRatio_of_pos hnum']
  refine min_le_min_left _ ?_
  rcases (place_mono (F := F) hnum hden hnum' hden' h).lt_or_eq with hlt | heq
  · -- The greater ratio stands at least one place higher, where its first digit counts as much.
    have hmin : F.minExponent ≤ F.place num den := le_max_left _ _
    have hhigh := hidden_le_units_place hnum' hden' (hmin.trans_lt hlt)
    have hstep : (F.place num den - F.minExponent).toNat + 1 ≤
        (F.place num' den' - F.minExponent).toNat := by omega
    calc (F.place num den - F.minExponent).toNat * F.hidden + units (F.place num den) num den
        ≤ (F.place num den - F.minExponent).toNat * F.hidden + 2 * F.hidden :=
          Nat.add_le_add_left (units_place_le hnum hden) _
      _ = ((F.place num den - F.minExponent).toNat + 1) * F.hidden + F.hidden := by ring
      _ ≤ (F.place num' den' - F.minExponent).toNat * F.hidden +
            units (F.place num' den') num' den' :=
          Nat.add_le_add (Nat.mul_le_mul_right _ hstep) hhigh
  · rw [heq]
    exact Nat.add_le_add_left (units_mono hden hden' h) _

/-- Rounding sees the ratio only. -/
lemma roundRatio_congr (hden : 0 < den) (hden' : 0 < den') (h : (num / den : ℚ) = num' / den') :
    F.roundRatio num den = F.roundRatio num' den' :=
  le_antisymm (roundRatio_mono hden hden' h.le) (roundRatio_mono hden' hden h.ge)

lemma place_eq {m : Nat} {e : ℤ} (hnum : 0 < num) (hden : 0 < den)
    (h : (num / den : ℚ) = m * 2 ^ e) (hm : m < 2 * F.hidden) (he : F.minExponent ≤ e)
    (hnormal : F.hidden ≤ m ∨ e = F.minExponent) : F.place num den = e := by
  have hspec := binaryPlaces_spec hnum hden
  rw [h] at hspec
  by_cases hfull : F.hidden ≤ m
  · have hplaces : binaryPlaces num den = e + (F.precision - 1 : Nat) := by
      refine binaryPlaces_eq hnum hden ?_ ?_
      · rw [h, zpow_add₀ (by norm_num), ← hidden_eq_zpow, mul_comm]
        exact mul_le_mul_of_nonneg_right (by exact_mod_cast hfull) (two_zpow_pos e).le
      · rw [h, add_assoc, zpow_add₀ (by norm_num), zpow_add_one₀ (by norm_num), ← hidden_eq_zpow,
          mul_comm]
        refine mul_lt_mul_of_pos_left ?_ (two_zpow_pos e)
        rw [mul_comm]
        exact_mod_cast hm
    unfold place
    omega
  · obtain rfl := hnormal.resolve_left hfull
    have hlt : (2 : ℚ) ^ binaryPlaces num den <
        2 ^ (((F.precision - 1 : Nat) : ℤ) + F.minExponent) := by
      refine hspec.1.trans_lt ?_
      rw [zpow_add₀ (by norm_num), ← hidden_eq_zpow]
      exact mul_lt_mul_of_pos_right (by exact_mod_cast not_le.mp hfull) (two_zpow_pos _)
    have hplaces := (zpow_lt_zpow_iff_right₀ (by norm_num : (1 : ℚ) < 2)).mp hlt
    unfold place
    omega

/-- **A ratio that is a number of the format is rounded to that number.** -/
theorem roundRatio_eq {m : Nat} {e : ℤ} (hden : 0 < den) (h : (num / den : ℚ) = m * 2 ^ e)
    (hm : m < 2 * F.hidden) (he : F.minExponent ≤ e)
    (hnormal : F.hidden ≤ m ∨ e = F.minExponent) :
    F.roundRatio num den = min F.infinity ((e - F.minExponent).toNat * F.hidden + m) := by
  have hden' : (0 : ℚ) < den := by exact_mod_cast hden
  rcases Nat.eq_zero_or_pos num with rfl | hnum
  · have hzero : m = 0 := by
      simpa [(two_zpow_pos e).ne'] using h
    subst hzero
    obtain rfl := hnormal.resolve_left (not_le.mpr F.hidden_pos)
    simp [roundRatio]
  · rw [roundRatio_of_pos hnum, place_eq hnum hden h hm he hnormal,
      le_antisymm (units_le hden h.le) (le_units hden h.ge)]

/-- Rounding never goes beyond infinity. -/
lemma roundRatio_le_infinity : F.roundRatio num den ≤ F.infinity := by
  unfold roundRatio
  split_ifs
  · exact Nat.zero_le _
  · exact min_le_left _ _

end FloatFormat

namespace Binary

variable {F : FloatFormat} {x : Binary F}

/-! ## Numbers as ratios -/

/-- The exact value of the magnitude. -/
def value (x : Binary F) : ℚ := x.significand * 2 ^ x.exponent

lemma denominator_pos (x : Binary F) : 0 < x.denominator := Nat.pow_pos (by decide)

lemma numerator_div_denominator (x : Binary F) :
    (x.numerator / x.denominator : ℚ) = x.value := by
  unfold numerator denominator value
  cases x.exponent with
  | ofNat e => simp
  | negSucc e =>
      rw [FloatFormat.two_zpow_negSucc]
      simp [div_eq_mul_inv]

lemma significand_lt (x : Binary F) : x.significand < 2 * F.hidden := by
  have hpos := F.hidden_pos
  unfold significand biased
  split_ifs with h
  · have := (Nat.div_eq_zero_iff_lt hpos).mp h
    omega
  · have := Nat.mod_lt x.magnitude hpos
    omega

lemma minExponent_le_exponent (x : Binary F) : F.minExponent ≤ x.exponent := by
  unfold exponent
  split_ifs <;> omega

lemma significand_full (x : Binary F) : F.hidden ≤ x.significand ∨ x.exponent = F.minExponent := by
  unfold significand exponent
  split_ifs
  · exact .inr rfl
  · exact .inl (Nat.le_add_left _ _)

lemma magnitude_eq (x : Binary F) :
    (x.exponent - F.minExponent).toNat * F.hidden + x.significand = x.magnitude := by
  have hdiv := Nat.div_add_mod x.magnitude F.hidden
  unfold exponent significand biased
  split_ifs with h
  · simp
  · obtain ⟨b, hb⟩ := Nat.exists_eq_add_one_of_ne_zero h
    rw [hb] at hdiv
    have hexponent : (F.minExponent + ((x.magnitude / F.hidden - 1 : Nat) : ℤ) -
        F.minExponent).toNat = b := by omega
    rw [hexponent]
    linarith

/-- **A finite number is the nearest to itself.** -/
theorem ofRatio_self (h : x.isFinite = true) :
    ofRatio x.negative x.numerator x.denominator = x := by
  have hlt : x.magnitude < F.infinity := of_decide_eq_true h
  rw [ofRatio, FloatFormat.roundRatio_eq x.denominator_pos x.numerator_div_denominator
    x.significand_lt x.minExponent_le_exponent x.significand_full, magnitude_eq,
    min_eq_right hlt.le]

/-- A finite number is not changed by a conversion to its own format. -/
theorem convert_self (h : x.isFinite = true) : x.convert F = x := by
  rw [convert, if_pos h, ofRatio_self h]

/-- A significand that fills its places is found again, with its exponent. -/
lemma value_of_full {negative : Bool} {m : Nat} {e : ℤ} (hm : F.hidden ≤ m)
    (hlt : m < 2 * F.hidden) (he : F.minExponent ≤ e) :
    (⟨negative, (e - F.minExponent).toNat * F.hidden + m⟩ : Binary F).value = m * 2 ^ e := by
  have hpos := F.hidden_pos
  obtain ⟨r, rfl⟩ := Nat.exists_eq_add_of_le hm
  have hr : r < F.hidden := by omega
  obtain ⟨b, rfl⟩ : ∃ b : Nat, e = F.minExponent + b := ⟨(e - F.minExponent).toNat, by omega⟩
  have hsum : (F.minExponent + (b : ℤ) - F.minExponent).toNat * F.hidden + (F.hidden + r) =
      r + (b + 1) * F.hidden := by
    rw [add_sub_cancel_left, Int.toNat_natCast]
    ring
  have hbiased : (⟨negative, r + (b + 1) * F.hidden⟩ : Binary F).biased = b + 1 := by
    rw [biased, Nat.add_mul_div_right _ _ hpos, Nat.div_eq_of_lt hr, Nat.zero_add]
  have hmod : (r + (b + 1) * F.hidden) % F.hidden = r := by
    rw [Nat.add_mul_mod_self_right, Nat.mod_eq_of_lt hr]
  rw [hsum, value, significand, exponent, hbiased]
  simp [hmod, add_comm]

/-! ## The narrow format inside the wide one -/

lemma exponent_le_of_isFinite {x : Single} (h : x.isFinite = true) : x.exponent ≤ 104 := by
  have hlt : x.magnitude < 255 * 8388608 := of_decide_eq_true h
  have hbiased : x.biased < 255 := Nat.div_lt_of_lt_mul (by rw [mul_comm]; exact hlt)
  have hmin : FloatFormat.single.minExponent = -149 := rfl
  unfold exponent
  split_ifs <;> omega

lemma minExponent_single : FloatFormat.single.minExponent = -149 := rfl

lemma minExponent_double : FloatFormat.double.minExponent = -1074 := rfl

lemma hidden_double : FloatFormat.double.hidden = 2 ^ 52 := rfl

/-- A positive significand of single width, moved up to fill the places of double width. -/
lemma exists_full {m : Nat} (hpos : 0 < m) (hm : m < 2 ^ 24) :
    ∃ k ≤ 52, 2 ^ 52 ≤ m * 2 ^ k ∧ m * 2 ^ k < 2 * 2 ^ 52 := by
  have hlog : m.log2 < 24 := (Nat.log2_lt hpos.ne').mpr hm
  refine ⟨52 - m.log2, Nat.sub_le _ _, ?_, ?_⟩
  · calc 2 ^ 52 = 2 ^ m.log2 * 2 ^ (52 - m.log2) := by rw [← pow_add]; congr 1; omega
      _ ≤ m * 2 ^ (52 - m.log2) := Nat.mul_le_mul_right _ (Nat.log2_self_le hpos.ne')
  · calc m * 2 ^ (52 - m.log2) < 2 ^ (m.log2 + 1) * 2 ^ (52 - m.log2) :=
          Nat.mul_lt_mul_of_pos_right Nat.lt_log2_self (by positivity)
      _ = 2 * 2 ^ 52 := by rw [← pow_add, ← pow_succ']; congr 1; omega

/-- **A finite number of single width keeps its value at double width.** -/
theorem value_convert_double {x : Single} (h : x.isFinite = true) :
    (x.convert .double).isFinite = true ∧ (x.convert .double).value = x.value := by
  have hratio := x.numerator_div_denominator
  rw [convert, if_pos h, ofRatio]
  rcases Nat.eq_zero_or_pos x.significand with hzero | hpos
  · have hnum : x.numerator = 0 := by rw [numerator, hzero, Nat.zero_mul]
    have hround : FloatFormat.double.roundRatio x.numerator x.denominator = 0 := by
      simp [FloatFormat.roundRatio, hnum]
    rw [hround]
    refine ⟨rfl, ?_⟩
    rw [value, value, hzero]
    simp [significand, biased]
  · have hm : x.significand < 2 ^ 24 := x.significand_lt
    obtain ⟨k, hk, hfull, hlt⟩ := exists_full hpos hm
    have hmin := x.minExponent_le_exponent
    have hmax := exponent_le_of_isFinite h
    rw [minExponent_single] at hmin
    have hvalue : x.value = (x.significand * 2 ^ k : Nat) * (2 : ℚ) ^ (x.exponent - k) := by
      rw [value, zpow_sub₀ (by norm_num), zpow_natCast]
      push_cast
      field_simp
    have hround := FloatFormat.roundRatio_eq (F := .double) x.denominator_pos
      (hratio.trans hvalue) hlt (by rw [minExponent_double]; omega) (.inl hfull)
    have hbelow : (x.exponent - k - FloatFormat.double.minExponent).toNat *
        FloatFormat.double.hidden + x.significand * 2 ^ k < FloatFormat.double.infinity := by
      rw [minExponent_double, hidden_double]
      change _ < 2047 * 2 ^ 52
      have hplace : (x.exponent - k - -1074).toNat ≤ 1178 := by omega
      omega
    rw [min_eq_right hbelow.le] at hround
    rw [hround, hvalue]
    exact ⟨decide_eq_true hbelow,
      value_of_full hfull hlt (by rw [minExponent_double]; omega)⟩

/-- **A finite number of single width is read back from double width.** -/
theorem convert_convert {x : Single} (h : x.isFinite = true) :
    (x.convert .double).convert .single = x := by
  obtain ⟨hfinite, hvalue⟩ := value_convert_double h
  have hnegative : (x.convert .double).negative = x.negative := by
    rw [convert, if_pos h, ofRatio]
  rw [convert, if_pos hfinite, hnegative]
  rw [← numerator_div_denominator, ← numerator_div_denominator] at hvalue
  rw [ofRatio, FloatFormat.roundRatio_congr (denominator_pos _) (denominator_pos _) hvalue]
  exact ofRatio_self h

/-! ## Order -/

/-- The significand and the steps of its exponent above the smallest one. -/
lemma exists_steps (x : Binary F) :
    ∃ b : Nat, x.magnitude = b * F.hidden + x.significand ∧ (F.hidden ≤ x.significand ∨ b = 0) ∧
      x.value = (x.significand * 2 ^ b : Nat) * 2 ^ F.minExponent := by
  obtain ⟨b, hb⟩ : ∃ b : Nat, x.exponent = F.minExponent + b :=
    ⟨(x.exponent - F.minExponent).toNat, by have := x.minExponent_le_exponent; omega⟩
  have hmagnitude := x.magnitude_eq
  have hfull := x.significand_full
  rw [hb] at hmagnitude hfull
  rw [add_sub_cancel_left, Int.toNat_natCast] at hmagnitude
  refine ⟨b, hmagnitude.symm, hfull.imp_right (by omega), ?_⟩
  rw [value, hb, zpow_add₀ (by norm_num), zpow_natCast]
  push_cast
  ring

/-- The exact value grows with the bits. -/
lemma value_mono {y : Binary F} (h : x.magnitude ≤ y.magnitude) : x.value ≤ y.value := by
  obtain ⟨b, hx, hxfull, hxvalue⟩ := x.exists_steps
  obtain ⟨c, hy, hyfull, hyvalue⟩ := y.exists_steps
  have hxlt := x.significand_lt
  have hylt := y.significand_lt
  rw [hx, hy] at h
  rw [hxvalue, hyvalue]
  refine mul_le_mul_of_nonneg_right ?_ (FloatFormat.two_zpow_pos _).le
  rcases lt_trichotomy b c with hlt | rfl | hgt
  · have hfull : F.hidden ≤ y.significand := hyfull.resolve_right (by omega)
    have hcalc : x.significand * 2 ^ b ≤ y.significand * 2 ^ c :=
      calc x.significand * 2 ^ b ≤ (y.significand * 2) * 2 ^ b :=
            Nat.mul_le_mul_right _ (by omega)
        _ = y.significand * 2 ^ (b + 1) := by ring
        _ ≤ y.significand * 2 ^ c :=
            Nat.mul_le_mul_left _ (Nat.pow_le_pow_right (by decide) hlt)
    exact_mod_cast hcalc
  · exact_mod_cast Nat.mul_le_mul_right _ (by omega)
  · -- More steps make more bits.
    have hfull : F.hidden ≤ x.significand := hxfull.resolve_right (by omega)
    have hsteps : (c + 1) * F.hidden ≤ b * F.hidden := Nat.mul_le_mul_right _ hgt
    rw [Nat.succ_mul] at hsteps
    omega

/-! ## Finite results -/

/-- What is not above a finite number is rounded to a finite number. -/
lemma isFinite_ofRatio {negative : Bool} {num den : Nat} (hden : 0 < den) (h : x.isFinite = true)
    (hle : (num / den : ℚ) ≤ x.value) : (ofRatio negative num den : Binary F).isFinite = true := by
  have hlt : x.magnitude < F.infinity := of_decide_eq_true h
  have hround : F.roundRatio num den ≤ F.roundRatio x.numerator x.denominator :=
    FloatFormat.roundRatio_mono hden x.denominator_pos
      (by rwa [numerator_div_denominator])
  have hself : F.roundRatio x.numerator x.denominator = x.magnitude :=
    congrArg magnitude (ofRatio_self h)
  exact decide_eq_true (by rw [hself] at hround; exact hround.trans_lt hlt)

/-- Division by what is at least one leaves a finite number finite. -/
lemma isFinite_scaleDown {y : Binary F} (h : x.isFinite = true) (hy : 1 ≤ y.value) :
    (x.scaleDown y).isFinite = true := by
  have hnum : 0 < y.numerator := by
    rw [Nat.pos_iff_ne_zero]
    intro hzero
    rw [← numerator_div_denominator, hzero, Nat.cast_zero, zero_div] at hy
    exact absurd hy (by norm_num)
  refine isFinite_ofRatio (Nat.mul_pos x.denominator_pos hnum) h ?_
  have hquotient : ((x.numerator * y.denominator : Nat) : ℚ) / (x.denominator * y.numerator : Nat) =
      x.value / y.value := by
    rw [← numerator_div_denominator, ← numerator_div_denominator]
    push_cast
    field_simp
  rw [hquotient]
  have hpos : 0 ≤ x.value := mul_nonneg (Nat.cast_nonneg _) (FloatFormat.two_zpow_pos _).le
  exact div_le_self hpos hy

/-- Rounding a ratio never crosses a finite number below it. -/
lemma value_le_ofRatio {negative : Bool} {num den : Nat} (hden : 0 < den)
    (h : x.isFinite = true) (hle : x.value ≤ num / den) :
    x.value ≤ (ofRatio negative num den : Binary F).value := by
  refine value_mono ?_
  have hself : F.roundRatio x.numerator x.denominator = x.magnitude :=
    congrArg magnitude (ofRatio_self h)
  rw [← hself]
  exact FloatFormat.roundRatio_mono x.denominator_pos hden (by rwa [numerator_div_denominator])

/-- Two to the sixty-fourth at double width. -/
def large : Double := ⟨false, 1087 * 2 ^ 52⟩

lemma value_large : large.value = 2 ^ 64 := by
  have hvalue : large.value = (2 ^ 52 : Nat) * (2 : ℚ) ^ (12 : ℤ) := by rfl
  rw [hvalue]
  norm_num

/-- Integers of sixty-four bits become finite numbers of double width. -/
lemma isFinite_ofRatio_one {negative : Bool} {n : Nat} (h : n ≤ 2 ^ 64) :
    (ofRatio negative n 1 : Double).isFinite = true := by
  refine isFinite_ofRatio Nat.one_pos (x := large) (by rfl) ?_
  rw [value_large, Nat.cast_one, div_one]
  exact_mod_cast h

end Binary

end Blockflow
