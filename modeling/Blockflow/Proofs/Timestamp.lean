import Blockflow.Timestamp
import Mathlib.Data.Nat.Digits.Defs
import Mathlib.Tactic.Common
import Mathlib.Tactic.IntervalCases
import Mathlib.Tactic.Linarith
import Mathlib.Tactic.Ring

/-!
# Points in time are read back

The text of a point in time is read as that point again, whatever its year, its fraction and its
leap second.  Days and dates correspond by eras of four hundred years; the parts of a text are read
off its front one by one.

* `Timestamp.dateOfDays_spec`, **`Timestamp.daysOfDate_dateOfDays`** — the calendar.
* `Timestamp.run_digits`, `Timestamp.run_number`, `Timestamp.run_year`, `Timestamp.run_fraction` —
  parts of a text.
* `Timestamp.Proper`, **`Timestamp.parse_render`** — whole texts.
-/

namespace Blockflow.Timestamp

/-! ## The calendar -/

/-- A day of an era of four hundred years, which starts in March: the centuries, the cycles of four
years, the years and the days behind it.  The last of four years may have a leap day, but not that
of a century unless it ends the era. -/
lemma exists_dayOfEra (day : Int) (hlow : 0 ≤ day) (hhigh : day < 146097) :
    ∃ c q r e : Int, (0 ≤ c ∧ c ≤ 3) ∧ (0 ≤ q ∧ q ≤ 24) ∧ (0 ≤ r ∧ r ≤ 3) ∧ (0 ≤ e ∧ e ≤ 365) ∧
      (e = 365 → r = 3 ∧ (q < 24 ∨ c = 3)) ∧ day = 36524 * c + 1461 * q + 365 * r + e := by
  refine ⟨min 3 (day / 36524), (day - 36524 * min 3 (day / 36524)) / 1461,
    min 3 ((day - 36524 * min 3 (day / 36524)) % 1461 / 365), _, ?_, ?_, ?_, ?_, ?_,
    (add_sub_cancel _ day).symm⟩
  all_goals omega

/-- What the date of such a day is computed from. -/
lemma yearOfEra_eq {c q r e : Int} (hc : 0 ≤ c ∧ c ≤ 3) (hq : 0 ≤ q ∧ q ≤ 24) (hr : 0 ≤ r ∧ r ≤ 3)
    (he : 0 ≤ e ∧ e ≤ 365) (hleap : e = 365 → r = 3 ∧ (q < 24 ∨ c = 3)) {day : Int}
    (hday : day = 36524 * c + 1461 * q + 365 * r + e) :
    (day - day / 1460 + day / 36524 - day / 146096) / 365 = 100 * c + 4 * q + r := by
  by_cases hlast : day = 146096
  · subst hlast
    norm_num
    omega
  · have hera : day / 146096 = 0 := by omega
    have hcentury : day / 36524 = c := by omega
    -- a leap day more in the cycles of four years is made up for behind the last of them
    have hcycles : day / 1460 = 25 * c + q + (24 * c + q + 365 * r + e) / 1460 := by omega
    have hrest : (24 * c + q + 365 * r + e) / 1460 = 0 ∨ (24 * c + q + 365 * r + e) / 1460 = 1 := by
      omega
    rw [hera, hcentury, hcycles]
    rcases hrest with hrest | hrest
    · rw [hrest]
      omega
    · rw [hrest]
      omega

/-- The year is counted from March: the month behind it, and the day of it, of a day of the year. -/
structure Date.OfDay (d : Date) (year e : Int) : Prop where
  year : d.year = year + if d.month ≤ 2 then 1 else 0
  month : (d.month : Int) = if (5 * e + 2) / 153 < 10 then (5 * e + 2) / 153 + 3
    else (5 * e + 2) / 153 - 9
  day : (d.day : Int) = e - (153 * ((5 * e + 2) / 153) + 2) / 5 + 1

/-- **The date of a day**, by eras, centuries, cycles of four years, years and days. -/
lemma dateOfDays_spec (days : Int) :
    ∃ era c q r e : Int, (0 ≤ c ∧ c ≤ 3) ∧ (0 ≤ q ∧ q ≤ 24) ∧ (0 ≤ r ∧ r ≤ 3) ∧ (0 ≤ e ∧ e ≤ 365) ∧
      (e = 365 → r = 3 ∧ (q < 24 ∨ c = 3)) ∧
      days + 719468 = 146097 * era + (36524 * c + 1461 * q + 365 * r + e) ∧
      (dateOfDays days).OfDay (400 * era + 100 * c + 4 * q + r) e := by
  have hera : (days + 719468).fdiv 146097 = (days + 719468) / 146097 :=
    Int.fdiv_eq_ediv_of_nonneg _ (by decide)
  obtain ⟨c, q, r, e, hc, hq, hr, he, hleap, hday⟩ :=
    exists_dayOfEra (days + 719468 - (days + 719468) / 146097 * 146097) (by omega) (by omega)
  have hyear := yearOfEra_eq hc hq hr he hleap hday
  have hfour : (100 * c + 4 * q + r) / 4 = 25 * c + q := by
    clear hday hyear
    omega
  have hhundred : (100 * c + 4 * q + r) / 100 = c := by
    clear hday hyear
    omega
  have hrest : days + 719468 - (days + 719468) / 146097 * 146097 -
      (365 * (100 * c + 4 * q + r) + (100 * c + 4 * q + r) / 4 - (100 * c + 4 * q + r) / 100) =
        e := by
    rw [hday, hfour, hhundred]
    ring
  refine ⟨(days + 719468) / 146097, c, q, r, e, hc, hq, hr, he, hleap, ?_, ?_⟩
  · rw [← hday]
    ring
  · unfold dateOfDays
    simp only [hera, hyear, hrest]
    clear hday hyear hrest hfour hhundred hera
    have hmonth : 0 ≤ (5 * e + 2) / 153 ∧ (5 * e + 2) / 153 ≤ 11 := by omega
    constructor <;> dsimp only
    · split_ifs <;> omega
    · rw [Int.toNat_of_nonneg (by split_ifs <;> omega)]
    · rw [Int.toNat_of_nonneg (by omega)]

/-- **The days to the date of a day** are that day. -/
theorem daysOfDate_dateOfDays (days : Int) : daysOfDate (dateOfDays days) = days := by
  obtain ⟨era, c, q, r, e, hc, hq, hr, he, -, hdays, hdate⟩ := dateOfDays_spec days
  generalize dateOfDays days = d at hdate
  obtain ⟨hyear, hmonth, hday⟩ := hdate
  have hmarch : (if d.month ≤ 2 then d.year - 1 else d.year) = 400 * era + 100 * c + 4 * q + r := by
    split_ifs at hyear ⊢ <;> omega
  have hera : (400 * era + 100 * c + 4 * q + r).fdiv 400 = era := by
    rw [Int.fdiv_eq_ediv_of_nonneg _ (by decide)]
    omega
  have hmonthFromMarch : (if d.month ≤ 2 then (d.month : Int) + 9 else d.month - 3) =
      (5 * e + 2) / 153 := by
    clear hdays hday hyear hmarch
    split_ifs at hmonth ⊢ <;> omega
  have hyearOfEra : 400 * era + 100 * c + 4 * q + r - era * 400 = 100 * c + 4 * q + r := by ring
  have hfour : (100 * c + 4 * q + r) / 4 = 25 * c + q := by
    clear hdays hday hmonth hmonthFromMarch
    omega
  have hhundred : (100 * c + 4 * q + r) / 100 = c := by
    clear hdays hday hmonth hmonthFromMarch
    omega
  unfold daysOfDate
  simp only [hmarch, hera, hmonthFromMarch, hyearOfEra, hfour, hhundred, hday]
  linarith

/-- The date of a day is one that the calendar has. -/
lemma dateOfDays_isDate (days : Int) :
    (1 ≤ (dateOfDays days).month ∧ (dateOfDays days).month ≤ 12) ∧
      1 ≤ (dateOfDays days).day ∧
      (dateOfDays days).day ≤ daysInMonth (dateOfDays days).year (dateOfDays days).month := by
  obtain ⟨era, c, q, r, e, hc, hq, hr, he, hleap, -, hdate⟩ := dateOfDays_spec days
  generalize dateOfDays days = d at hdate
  obtain ⟨hyear, hmonth, hday⟩ := hdate
  have hm : 0 ≤ (5 * e + 2) / 153 ∧ (5 * e + 2) / 153 ≤ 11 := by omega
  refine ⟨by split_ifs at hmonth <;> omega, by omega, ?_⟩
  by_cases hfebruary : d.month = 2
  · -- the last month; its last day is a leap day
    have hlast : (5 * e + 2) / 153 = 11 := by
      split_ifs at hmonth <;> omega
    have hleapYear : e = 365 → isLeap d.year = true := by
      intro heq
      obtain ⟨hthree, hcentury⟩ := hleap heq
      rw [if_pos hfebruary.le] at hyear
      clear hmonth hday hm hlast
      simp only [isLeap, Bool.and_eq_true, Bool.or_eq_true, decide_eq_true_eq]
      omega
    rw [daysInMonth, if_pos hfebruary]
    rw [hlast] at hday
    split_ifs with hyes
    · omega
    · have hne : e ≠ 365 := fun h => hyes (hleapYear h)
      omega
  · rw [daysInMonth, if_neg hfebruary]
    clear hyear hleap
    generalize hmarch : (5 * e + 2) / 153 = m at hm hmonth hday
    obtain ⟨hlow, hhigh⟩ := hm
    interval_cases m <;> norm_num at hmonth hday <;>
      simp only [Bool.or_eq_true, decide_eq_true_eq] <;> split_ifs <;> omega

/-- The date of a day in a year that the calendar has lies in the calendar. -/
lemma days_within {days : Int} (hfirst : firstYear ≤ (dateOfDays days).year)
    (hlast : (dateOfDays days).year ≤ lastYear) :
    daysOfDate ⟨firstYear, 1, 1⟩ ≤ days ∧ days < daysOfDate ⟨lastYear + 1, 1, 1⟩ := by
  obtain ⟨era, c, q, r, e, hc, hq, hr, he, -, hdays, hdate⟩ := dateOfDays_spec days
  generalize dateOfDays days = d at hfirst hlast hdate
  obtain ⟨hyear, hmonth, -⟩ := hdate
  have hlow : daysOfDate ⟨firstYear, 1, 1⟩ = -96465292 := by decide
  have hhigh : daysOfDate ⟨lastYear + 1, 1, 1⟩ = 95026237 := by decide
  rw [hlow, hhigh]
  unfold firstYear at hfirst
  unfold lastYear at hlast
  -- a month at the year's start is one of the last two behind March
  have hstart : d.month ≤ 2 → 306 ≤ e := by
    clear hdays hyear
    intro hd
    split_ifs at hmonth <;> omega
  have hend : ¬ d.month ≤ 2 → e < 306 := by
    clear hdays hyear hstart
    intro hd
    split_ifs at hmonth <;> omega
  clear hmonth
  split_ifs at hyear with hd
  · have he' := hstart hd
    clear hstart hend
    omega
  · have he' := hend hd
    clear hstart hend
    omega

/-! ## Digits -/

/-- Decimal digits that come to a number. -/
structure AreDigits (ds : List Char) (n : Nat) : Prop where
  isDigit : ∀ c ∈ ds, c.isDigit = true
  value : digitsValue ds = n

lemma digitsValue_eq (ds : List Char) : digitsValue ds = Nat.ofDigitChars 10 ds 0 := by
  unfold digitsValue Nat.ofDigitChars
  simp only [Nat.mul_comm]

lemma areDigits_padded (width n : Nat) : AreDigits (padded width n).toList n where
  isDigit c hc := by
    simp only [padded, String.toList_ofList, List.mem_append, List.mem_replicate] at hc
    rcases hc with ⟨-, rfl⟩ | hc
    · rfl
    · exact Nat.isDigit_of_mem_toDigits (by decide) (by decide) hc
  value := by
    have hzeros : ∀ k, Nat.ofDigitChars 10 (List.replicate k '0') 0 = 0 := by
      intro k
      induction k with
      | zero => rfl
      | succ k ih => rw [List.replicate_succ, Nat.ofDigitChars_cons]; exact ih
    rw [digitsValue_eq, padded, String.toList_ofList, Nat.ofDigitChars_append, hzeros,
      Nat.ofDigitChars_ten_toDigits]

lemma length_padded {width n : Nat} (hwidth : 0 < width) (h : n < 10 ^ width) :
    (padded width n).toList.length = width := by
  have hlength := (Nat.length_toDigits_le_iff (b := 10) (by decide) hwidth).mpr h
  simp [padded]
  omega

lemma padded_ne_nil (width n : Nat) : (padded width n).toList ≠ [] := by
  have hne := Nat.toDigits_ne_nil (n := n) (b := 10)
  simp [padded, hne]

/-! ## Reading -/

variable {α β : Type}

lemma run_bind_ok {p : Reader α} {k : α → Reader β} {cs rest : List Char} {a : α}
    (h : p.run cs = .ok (a, rest)) : (p >>= k).run cs = (k a).run rest := by
  rw [StateT.run_bind, h]
  rfl

lemma run_get_bind (k : List Char → Reader β) (cs : List Char) :
    (get >>= k).run cs = (k cs).run cs :=
  rfl

lemma run_set_bind (k : PUnit → Reader β) (cs rest : List Char) :
    (set rest >>= k).run cs = (k ⟨⟩).run rest :=
  rfl

lemma run_modify_bind (f : List Char → List Char) (k : PUnit → Reader β) (cs : List Char) :
    (modify f >>= k).run cs = (k ⟨⟩).run (f cs) :=
  rfl

/-- Digits are read up to what is no digit, or to as many as are wanted. -/
lemma run_digits {width : Nat} {ds : List Char} (rest : List Char)
    (hds : ∀ c ∈ ds, c.isDigit = true)
    (hne : ds ≠ []) (hwidth : ds.length ≤ width)
    (hrest : ds.length = width ∨ ∀ c ∈ rest.head?, c.isDigit = false) :
    (digits width).run (ds ++ rest) = .ok (ds, rest) := by
  have htail : (rest.take (width - ds.length)).takeWhile Char.isDigit = [] := by
    rcases hrest with hrest | hrest
    · simp [hrest]
    · cases rest with
      | nil => simp
      | cons c rest =>
          cases width - ds.length with
          | zero => rfl
          | succ k => simp [hrest c rfl]
  have htake : ((ds ++ rest).take width).takeWhile Char.isDigit = ds := by
    rw [List.take_append, List.take_of_length_le hwidth, List.takeWhile_append_of_pos hds, htail,
      List.append_nil]
  have hempty : (ds ++ rest).isEmpty = false := by simp [hne]
  rw [digits, run_get_bind]
  simp only [htake, hempty, List.isEmpty_eq_false_iff.mpr hne, Bool.false_eq_true, if_false]
  rw [run_set_bind, List.drop_left]
  rfl

/-- A character in front of which there are no blanks. -/
lemma run_blanks {c : Char} (hc : Text.isBlank c = false) (rest : List Char) :
    blanks.run (c :: rest) = .ok ((), c :: rest) := by
  have hdrop : Text.dropBlanks (c :: rest) = c :: rest := by
    rw [Text.dropBlanks, List.dropWhile_cons_of_neg (by simp [hc])]
  change Except.ok (PUnit.unit, Text.dropBlanks (c :: rest)) = _
  rw [hdrop]

lemma isBlank_of_isDigit {c : Char} (hc : c.isDigit = true) : Text.isBlank c = false := by
  have hrange : 48 ≤ c.toNat ∧ c.toNat ≤ 57 := by
    simpa [Char.isDigit, UInt32.le_iff_toNat_le] using hc
  simp only [Text.isBlank, Bool.or_eq_false_iff, Bool.and_eq_false_iff, decide_eq_false_iff_not]
  omega

lemma run_separator {c : Char} (hc : Text.isBlank c = false) (rest : List Char) :
    (separator c).run (c :: rest) = .ok ((), rest) := by
  rw [separator, run_bind_ok (run_blanks hc rest), run_get_bind]
  dsimp only
  rw [if_pos rfl]
  rfl

/-- A number of so many digits. -/
lemma run_number {width low high n : Nat} {ds rest : List Char} (hds : AreDigits ds n)
    (hwidth : 0 < width) (hlength : ds.length = width) (hlow : low ≤ n) (hhigh : n ≤ high) :
    (number width low high).run (ds ++ rest) = .ok (n, rest) := by
  obtain ⟨c, cs, rfl⟩ : ∃ c cs, ds = c :: cs := List.exists_cons_of_length_pos (by omega)
  have hblanks := run_blanks (isBlank_of_isDigit (hds.isDigit c List.mem_cons_self)) (cs ++ rest)
  have hdigits := run_digits rest hds.isDigit (by simp) hlength.le (.inl hlength)
  rw [number, List.cons_append, run_bind_ok hblanks, ← List.cons_append, run_bind_ok hdigits,
    hds.value]
  have hwithin : (decide (low ≤ n) && decide (n ≤ high)) = true := by simp [hlow, hhigh]
  simp only [hwithin, if_true]
  rfl

/-- A year of four digits. -/
lemma run_year_plain {n : Nat} {ds : List Char} (hds : AreDigits ds n) (hlength : ds.length = 4)
    (rest : List Char) : year.run (ds ++ rest) = .ok ((n : Int), rest) := by
  obtain ⟨c, cs, rfl⟩ : ∃ c cs, ds = c :: cs := List.exists_cons_of_length_pos (by omega)
  have hc : c.isDigit = true := hds.isDigit c List.mem_cons_self
  have hread := run_digits rest hds.isDigit (by simp) hlength.le (.inl hlength)
  rw [List.cons_append] at hread ⊢
  rw [year, run_bind_ok (run_blanks (isBlank_of_isDigit hc) _), run_get_bind]
  -- a digit is no sign
  split
  · next heq =>
      cases heq
      exact absurd hc (by decide)
  · next heq =>
      cases heq
      exact absurd hc (by decide)
  · rw [run_bind_ok hread, hds.value]
    rfl

section Signed

variable {n : Nat} {ds rest : List Char} (hds : AreDigits ds n) (hne : ds ≠ [])
  (hrest : ∀ c ∈ rest.head?, c.isDigit = false)

include hds hne hrest

/-- Behind a sign, all digits are read. -/
lemma run_signedDigits : (digits (ds ++ rest).length).run (ds ++ rest) = .ok (ds, rest) :=
  run_digits rest hds.isDigit hne (by simp) (.inr hrest)

lemma run_year_minus (hn : n ≤ 2147483648) :
    year.run ('-' :: (ds ++ rest)) = .ok (-(n : Int), rest) := by
  rw [year, run_bind_ok (run_blanks (by decide) _), run_get_bind]
  split
  · next heq =>
      cases heq
      rw [run_set_bind, run_bind_ok (run_signedDigits hds hne hrest), hds.value, if_pos hn]
      rfl
  · next heq => simp at heq
  · next hminus _ => exact absurd rfl (hminus _)

lemma run_year_plus (hn : n ≤ 2147483647) :
    year.run ('+' :: (ds ++ rest)) = .ok ((n : Int), rest) := by
  rw [year, run_bind_ok (run_blanks (by decide) _), run_get_bind]
  split
  · next heq => simp at heq
  · next heq =>
      cases heq
      rw [run_set_bind, run_bind_ok (run_signedDigits hds hne hrest), hds.value, if_pos hn]
      rfl
  · next hplus => exact absurd rfl (hplus _)

end Signed

/-- The year that a date is written with. -/
lemma run_year (y : Int) (hlow : -2147483648 ≤ y) (hhigh : y ≤ 2147483647) (rest : List Char) :
    year.run ((yearText y).toList ++ '-' :: rest) = .ok (y, '-' :: rest) := by
  have hdash : ∀ c ∈ ('-' :: rest).head?, c.isDigit = false := by simp
  rw [yearText]
  split_ifs with hplain hneg
  · have hrange : 0 ≤ y ∧ y ≤ 9999 := by simpa using hplain
    have hlength : (padded 4 y.toNat).toList.length = 4 :=
      length_padded (by decide) (by norm_num; omega)
    rw [run_year_plain (areDigits_padded 4 y.toNat) hlength, Int.toNat_of_nonneg hrange.1]
  · have hself : -(y.natAbs : Int) = y := by omega
    have hread := run_year_minus (areDigits_padded 4 y.natAbs) (padded_ne_nil 4 _) hdash (by omega)
    rw [hself] at hread
    rw [String.toList_append, List.append_assoc, show "-".toList = ['-'] from rfl,
      List.singleton_append, hread]
  · have hself : (y.natAbs : Int) = y := by omega
    have hread := run_year_plus (areDigits_padded 4 y.natAbs) (padded_ne_nil 4 _) hdash (by omega)
    rw [hself] at hread
    rw [String.toList_append, List.append_assoc, show "+".toList = ['+'] from rfl,
      List.singleton_append, hread]

/-- The decimals that the seconds are written with. -/
lemma run_fraction {nanos : Nat} (hnanos : nanos < 1000000000) (rest : List Char) :
    fraction.run ((fractionText nanos).toList ++ 'Z' :: rest) = .ok (nanos, 'Z' :: rest) := by
  have hdecimals : ∀ width n, 0 < width → width ≤ 9 → n < 10 ^ width →
      n * 10 ^ (9 - width) = nanos →
      fraction.run (("." ++ padded width n).toList ++ 'Z' :: rest) = .ok (nanos, 'Z' :: rest) := by
    intro width n hpos hwidth hn hnanos
    have hlength := length_padded hpos hn
    have hread : (digits 9).run ((padded width n).toList ++ 'Z' :: rest) =
        .ok ((padded width n).toList, 'Z' :: rest) :=
      run_digits _ (areDigits_padded width n).isDigit (padded_ne_nil width n) (by omega)
        (.inr (by simp))
    rw [String.toList_append, show ("." : String).toList = ['.'] from rfl, List.singleton_append,
      List.cons_append, fraction, run_get_bind]
    split
    · next heq =>
        cases heq
        rw [run_set_bind,
          run_bind_ok hread, run_modify_bind,
          (areDigits_padded width n).value, hlength]
        exact congrArg (fun k => Except.ok (k, 'Z' :: rest)) hnanos
    · next hpoint => exact absurd rfl (hpoint _)
  rw [fractionText]
  split_ifs with hzero hmilli hmicro
  · subst hzero
    rfl
  · exact hdecimals 3 _ (by decide) (by decide) (by omega) (by omega)
  · exact hdecimals 6 _ (by decide) (by decide) (by omega) (by omega)
  · exact hdecimals 9 _ (by decide) (by decide) hnanos (by omega)

lemma run_offset : offset.run ['Z'] = .ok (0, []) := rfl

lemma run_blanks_nil : blanks.run [] = .ok ((), []) := rfl

/-! ## Whole texts -/

/-- A date and a time in universal time, as the characters of their text. -/
def written (d : Date) (hour minute second nanos : Nat) : List Char :=
  (yearText d.year).toList ++
    '-' :: ((padded 2 d.month).toList ++
    '-' :: ((padded 2 d.day).toList ++
    'T' :: ((padded 2 hour).toList ++
    ':' :: ((padded 2 minute).toList ++
    ':' :: ((padded 2 second).toList ++
      ((fractionText nanos).toList ++ ['Z']))))))

lemma toList_render (t : Timestamp) :
    t.render.toList =
      written (dateOfDays t.day) ((t.seconds - t.day * 86400).toNat / 3600)
        ((t.seconds - t.day * 86400).toNat / 60 % 60)
        ((t.seconds - t.day * 86400).toNat % 60 + t.nanos / 1000000000)
        (t.nanos % 1000000000) := by
  simp [render, written, day, String.toList_append]

/-- A number written with two digits. -/
lemma run_number_two {low high n : Nat} (hhigh : high < 100) (h : low ≤ n ∧ n ≤ high)
    (rest : List Char) :
    (number 2 low high).run ((padded 2 n).toList ++ rest) = .ok (n, rest) :=
  run_number (areDigits_padded 2 n) (by decide) (length_padded (by decide) (by omega)) h.1 h.2

/-- A date of the calendar. -/
structure Date.Proper (d : Date) : Prop where
  first : firstYear ≤ d.year
  last : d.year ≤ lastYear
  month : 1 ≤ d.month ∧ d.month ≤ 12
  day : 1 ≤ d.day ∧ d.day ≤ daysInMonth d.year d.month

lemma daysInMonth_le (year : Int) (month : Nat) : daysInMonth year month ≤ 31 := by
  unfold daysInMonth
  split_ifs <;> omega

/-- What is read of a date and a time: the sixtieth second is the one before it, prolonged. -/
lemma run_dateTime {d : Date} {hour minute second nanos : Nat} (hd : d.Proper)
    (hhour : hour ≤ 23) (hminute : minute ≤ 59) (hsecond : second ≤ 60)
    (hnanos : nanos < 1000000000) {leap : Nat} (hleap : leap = if second = 60 then 1 else 0)
    {seconds : Int}
    (hseconds : seconds =
      daysOfDate d * 86400 + ((hour * 3600 + minute * 60 + (second - leap) : Nat) : Int))
    (hfirst : daysOfDate ⟨firstYear, 1, 1⟩ * 86400 ≤ seconds)
    (hlast : seconds < daysOfDate ⟨lastYear + 1, 1, 1⟩ * 86400) :
    dateTime.run (written d hour minute second nanos) =
      .ok (⟨seconds, nanos + leap * 1000000000⟩, []) := by
  have hfirstYear := hd.first
  have hlastYear := hd.last
  have hdayBound := hd.day.2.trans (daysInMonth_le d.year d.month)
  unfold firstYear at hfirstYear
  unfold lastYear at hlastYear
  unfold dateTime written
  rw [run_bind_ok (run_year d.year (by omega) (by omega) _),
    run_bind_ok (run_separator (by decide) _),
    run_bind_ok (run_number_two (by decide) hd.month _), run_bind_ok (run_separator (by decide) _),
    run_bind_ok (run_number_two (by decide) ⟨hd.day.1, hdayBound⟩ _),
    run_get_bind]
  simp only [decide_true, Bool.or_true, Bool.true_or, if_true]
  rw [run_set_bind, run_bind_ok (run_number_two (by decide) ⟨Nat.zero_le _, hhour⟩ _),
    run_bind_ok (run_separator (by decide) _),
    run_bind_ok (run_number_two (by decide) ⟨Nat.zero_le _, hminute⟩ _),
    run_bind_ok (run_separator (by decide) _),
    run_bind_ok (run_number_two (by decide) ⟨Nat.zero_le _, hsecond⟩ _),
    run_bind_ok (run_fraction hnanos _), run_bind_ok (run_blanks (by decide) _),
    run_bind_ok run_offset, run_bind_ok run_blanks_nil, run_get_bind]
  -- nothing is left to read; the checks of the whole pass
  have hcalendar : (decide (d.year < firstYear) || decide (lastYear < d.year) ||
      decide (daysInMonth d.year d.month < d.day)) = false := by
    simp [hd.first, hd.last, hd.day.2]
  have hwithin : (decide (seconds < daysOfDate ⟨firstYear, 1, 1⟩ * 86400) ||
      decide (daysOfDate ⟨lastYear + 1, 1, 1⟩ * 86400 ≤ seconds)) = false := by
    simp [hfirst, hlast]
  simp only [List.isEmpty_nil, Bool.not_true, Bool.false_eq_true, if_false, hcalendar, ← hleap,
    sub_zero, ← hseconds, hwithin]
  rfl

/-- A point in time that the calendar has; only the last second of a minute may be prolonged. -/
structure Proper (t : Timestamp) : Prop where
  first : firstYear ≤ (dateOfDays t.day).year
  last : (dateOfDays t.day).year ≤ lastYear
  nanos : t.nanos < 1000000000 ∨ t.nanos < 2000000000 ∧ t.seconds % 60 = 59

/-- **A point in time is read back from its text.** -/
theorem parse_render {t : Timestamp} (h : t.Proper) : parse t.render = .ok t := by
  obtain ⟨hmonth, hday⟩ := dateOfDays_isDate t.day
  obtain ⟨hfirst, hlast⟩ := days_within h.first h.last
  have hdays : t.day = t.seconds / 86400 := Int.fdiv_eq_ediv_of_nonneg _ (by decide)
  have hnanos := h.nanos
  have hleap : t.nanos / 1000000000 =
      if (t.seconds - t.day * 86400).toNat % 60 + t.nanos / 1000000000 = 60 then 1 else 0 := by
    split_ifs <;> omega
  have hseconds : t.seconds = daysOfDate (dateOfDays t.day) * 86400 +
      (((t.seconds - t.day * 86400).toNat / 3600 * 3600 +
        (t.seconds - t.day * 86400).toNat / 60 % 60 * 60 +
        ((t.seconds - t.day * 86400).toNat % 60 + t.nanos / 1000000000 -
          t.nanos / 1000000000) : Nat) : Int) := by
    rw [daysOfDate_dateOfDays]
    omega
  have hself : t.nanos % 1000000000 + t.nanos / 1000000000 * 1000000000 = t.nanos := by omega
  have hread : dateTime.run t.render.toList = .ok (⟨t.seconds, t.nanos⟩, []) := by
    rw [toList_render]
    refine (run_dateTime ⟨h.first, h.last, hmonth, hday⟩ ?_ ?_ ?_ (Nat.mod_lt _ (by decide)) hleap
      hseconds ?_ ?_).trans (by rw [hself])
    all_goals omega
  rw [parse, hread]
  rfl

end Blockflow.Timestamp
