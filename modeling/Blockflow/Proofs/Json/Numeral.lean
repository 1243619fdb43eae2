import Blockflow.Json.Codec
import Mathlib.Data.List.DropRight
import Mathlib.Data.Nat.Digits.Defs
import Mathlib.Tactic.Positivity

/-!
# Numerals are read where they end

A number has no closing mark: it ends where the text does not go on with it.  So a numeral that is
read to its last character when it stands alone is read to that character wherever a comma, a
bracket or the end of the text comes next.

* `EndsNumber` — texts that do not go on with a number.
* `readValue_number_append` — the reader of numbers stops in front of such a text.
* `Number.Legible` — numbers that are read back from their numerals; **`legible_int`**: every
  integer that the reader keeps as an integer is one.
-/

namespace Blockflow.Json

variable {rest r cs : List Char} {d : Draft} {negative : Bool} {significand : Nat} {shift : Int}

/-- A text that does not go on with a number. -/
def EndsNumber (rest : List Char) : Prop :=
  ∀ c ∈ rest.head?, c.isDigit = false ∧ c ≠ '.' ∧ c ≠ 'e' ∧ c ≠ 'E'

lemma endsNumber_nil : EndsNumber [] := by
  simp [EndsNumber]

/-- What goes on with a number stands in front of what does not. -/
lemma EndsNumber.append_eq_cons {c : Char} (hr : EndsNumber rest)
    (hc : c.isDigit = true ∨ c = '.' ∨ c = 'e' ∨ c = 'E') (h : cs ++ rest = c :: r) :
    ∃ behind, cs = c :: behind := by
  cases cs with
  | nil =>
      rw [List.nil_append] at h
      have hne := hr c (by simp [h])
      simp [hne] at hc
  | cons c' cs =>
      rw [List.cons_append, List.cons.injEq] at h
      exact ⟨cs, by rw [h.1]⟩

/-! ## Digits -/

lemma digit?_of_not_isDigit {c : Char} (h : c.isDigit = false) : digit? c = none := by
  simp [digit?, h]

lemma digit?_of_isDigit {c : Char} (h : c.isDigit = true) :
    digit? c = some (c.toNat - '0'.toNat) := by
  simp [digit?, h]

lemma absorb_of_endsNumber (hr : EndsNumber rest) (s : Nat) : absorb s rest = (s, 0, rest) := by
  cases rest with
  | nil => rfl
  | cons c r => rw [absorb, digit?_of_not_isDigit (hr c rfl).1]

lemma absorb_append (hr : EndsNumber rest) (cs : List Char) : ∀ s : Nat,
    absorb s (cs ++ rest) =
      ((absorb s cs).1, (absorb s cs).2.1, (absorb s cs).2.2 ++ rest) := by
  induction cs with
  | nil => intro s; simpa [absorb] using absorb_of_endsNumber hr s
  | cons c cs ih =>
      intro s
      rw [List.cons_append, absorb, absorb]
      cases digit? c with
      | none => rfl
      | some d =>
          by_cases hlarge : maxInteger < s * 10 + d
          · simp [hlarge]
          · simp [hlarge, ih]

lemma spanDigits_append (hr : EndsNumber rest) (cs : List Char) :
    spanDigits (cs ++ rest) = ((spanDigits cs).1, (spanDigits cs).2 ++ rest) := by
  induction cs with
  | nil =>
      cases rest with
      | nil => rfl
      | cons c r => simp [spanDigits, (hr c rfl).1]
  | cons c cs ih =>
      simp only [spanDigits, Prod.mk.injEq] at ih
      by_cases hc : c.isDigit <;> simp [spanDigits, hc, ih]

/-! ## Numbers in front of other text -/

lemma floatToken_append {exponent : Int}
    (h : floatToken negative significand exponent cs = (d, some r)) :
    floatToken negative significand exponent (cs ++ rest) = (d, some (r ++ rest)) := by
  unfold floatToken at h ⊢
  split at h <;> cases h <;> rfl

/-- The digits of an exponent whose sign was read. -/
def readPower (negative down : Bool) (significand : Nat) (shift : Int) (cs : List Char) : Token :=
  match cs with
  | [] => (.stopInNumber .endInValue, none)
  | c :: _ =>
    if c.isDigit then
      let (ds, rest) := spanDigits cs
      let e : Int := (ds.foldl (fun n d => n * 10 + (d.toNat - '0'.toNat)) 0 : Nat)
      floatToken negative significand (if down then shift - e else shift + e) rest
    else (.stopInNumber .badNumber, none)

lemma readExponent_eq (cs : List Char) :
    readExponent negative significand shift cs =
      match cs with
      | '+' :: r => readPower negative false significand shift r
      | '-' :: r => readPower negative true significand shift r
      | r => readPower negative false significand shift r := by
  unfold readExponent
  rcases cs with _ | ⟨c, cs⟩
  · rfl
  · by_cases hplus : c = '+'
    · subst hplus
      rfl
    · by_cases hminus : c = '-'
      · subst hminus
        rfl
      · simp [hplus, hminus, readPower]

lemma readPower_append {down : Bool} (hr : EndsNumber rest)
    (h : readPower negative down significand shift cs = (d, some r)) :
    readPower negative down significand shift (cs ++ rest) = (d, some (r ++ rest)) := by
  cases cs with
  | nil => cases h
  | cons c cs =>
      rw [List.cons_append]
      unfold readPower at h ⊢
      dsimp only at h ⊢
      by_cases hc : c.isDigit
      · rw [if_pos hc] at h ⊢
        rw [← List.cons_append, spanDigits_append hr]
        exact floatToken_append h
      · rw [if_neg hc] at h
        cases h

lemma readExponent_append (hr : EndsNumber rest)
    (h : readExponent negative significand shift cs = (d, some r)) :
    readExponent negative significand shift (cs ++ rest) = (d, some (r ++ rest)) := by
  rw [readExponent_eq] at h ⊢
  cases cs with
  | nil => cases h
  | cons c cs =>
      rw [List.cons_append]
      split at h
      case h_3 hplus hminus =>
        split
        · simp_all
        · simp_all
        · exact readPower_append hr h
      all_goals
        rename_i heq
        cases heq
        exact readPower_append hr h

lemma readDecimals_append (hr : EndsNumber rest)
    (h : readDecimals negative significand shift cs = (d, some r)) :
    readDecimals negative significand shift (cs ++ rest) = (d, some (r ++ rest)) := by
  unfold readDecimals at h ⊢
  rw [absorb_append hr]
  generalize absorb significand cs = a at h ⊢
  obtain ⟨s, taken, behind⟩ := a
  dsimp only at h ⊢
  rw [spanDigits_append hr]
  generalize spanDigits behind = b at h ⊢
  obtain ⟨dropped, behind⟩ := b
  dsimp only at h ⊢
  by_cases hnone : (decide (taken = 0) && dropped.isEmpty) = true
  · rw [if_pos hnone] at h
    cases h
  · rw [if_neg hnone] at h ⊢
    split at h
    case h_3 hlower hupper =>
      split
      case h_1 heq =>
        obtain ⟨r', rfl⟩ := hr.append_eq_cons (by simp) heq
        exact absurd rfl (hlower r')
      case h_2 heq =>
        obtain ⟨r', rfl⟩ := hr.append_eq_cons (by simp) heq
        exact absurd rfl (hupper r')
      case h_3 => exact floatToken_append h
    all_goals exact readExponent_append hr h

/-- **A number is read to the same place whatever comes behind it.** -/
lemma readNumber_append (hr : EndsNumber rest) (h : readNumber negative cs = (d, some r)) :
    readNumber negative (cs ++ rest) = (d, some (r ++ rest)) := by
  cases cs with
  | nil => cases h
  | cons c cs =>
      have hhead : (cs ++ rest).head?.any Char.isDigit = cs.head?.any Char.isDigit := by
        cases cs with
        | nil =>
            cases hrest : rest.head? with
            | none => simp [hrest]
            | some c => simp [hrest, (hr c hrest).1]
        | cons c cs => rfl
      rw [List.cons_append]
      unfold readNumber at h ⊢
      dsimp only at h ⊢
      rw [hhead, ← List.cons_append, absorb_append hr]
      generalize absorb 0 (c :: cs) = a at h ⊢
      obtain ⟨s, taken, behind⟩ := a
      dsimp only at h ⊢
      rw [spanDigits_append hr]
      generalize spanDigits behind = b at h ⊢
      obtain ⟨dropped, behind⟩ := b
      dsimp only at h ⊢
      by_cases hdigit : (!c.isDigit) = true
      · rw [if_pos hdigit] at h
        cases h
      rw [if_neg hdigit] at h ⊢
      by_cases hzero : (decide (c = '0') && cs.head?.any Char.isDigit) = true
      · rw [if_pos hzero] at h
        cases h
      rw [if_neg hzero] at h ⊢
      -- Only the last alternative, an integer, looks at what comes next and finds it is not its.
      split at h
      case h_4 hpoint hlower hupper =>
        split
        case h_1 heq =>
          obtain ⟨r', rfl⟩ := hr.append_eq_cons (by simp) heq
          exact absurd rfl (hpoint r')
        case h_2 heq =>
          obtain ⟨r', rfl⟩ := hr.append_eq_cons (by simp) heq
          exact absurd rfl (hlower r')
        case h_3 heq =>
          obtain ⟨r', rfl⟩ := hr.append_eq_cons (by simp) heq
          exact absurd rfl (hupper r')
        case h_4 =>
          split_ifs at h ⊢
          · exact floatToken_append h
          · cases h; rfl
          · exact floatToken_append h
          · cases h; rfl
      · exact readDecimals_append hr h
      all_goals exact readExponent_append hr h

/-! ## Blanks in front -/

lemma skipBlanks_cons {c : Char} (hc : isBlank c = false) (cs : List Char) :
    skipBlanks (c :: cs) = c :: cs := by
  simp [skipBlanks, hc]

lemma skipBlanks_skipBlanks (cs : List Char) : skipBlanks (skipBlanks cs) = skipBlanks cs :=
  List.dropWhile_idempotent isBlank cs

lemma skipBlanks_append {c : Char} (h : skipBlanks cs = c :: r) (rest : List Char) :
    skipBlanks (cs ++ rest) = c :: (r ++ rest) := by
  rw [skipBlanks] at h ⊢
  rw [List.dropWhile_append]
  simp [h]

lemma readValue_skipBlanks (fuel : Nat) (cs : List Char) :
    readValue fuel (skipBlanks cs) = readValue fuel cs := by
  cases fuel with
  | zero => simp [readValue]
  | succ fuel => rw [readValue, readValue, skipBlanks_skipBlanks]

/-! ## Values that are numbers -/

lemma readWord_ne_number {word : List Char} {n : Number} (hd : d ≠ .number n) :
    readWord d word cs ≠ (.number n, some r) := by
  induction word generalizing cs with
  | nil => simp [readWord, hd]
  | cons w ws ih =>
      cases cs with
      | nil => simp [readWord]
      | cons c cs =>
          simp only [readWord]
          split_ifs
          · exact ih
          · simp

lemma readTextToken_ne_number {n : Number} : readTextToken cs ≠ (.number n, some r) := by
  unfold readTextToken
  split
  · simp
  · split <;> simp

lemma readValue_of_isDigit {c : Char} (hc : c.isDigit = true) (h : skipBlanks cs = c :: r)
    (fuel : Nat) : readValue (fuel + 1) cs = readNumber false (c :: r) := by
  rw [readValue, h]
  split
  case h_9 heq =>
    cases heq
    rw [if_pos hc]
  all_goals
    rename_i heq
    cases heq
  all_goals exact absurd hc (by decide)

lemma readValue_number_append {n : Number} {fuel fuel' : Nat} (hr : EndsNumber rest)
    (h : readValue (fuel + 1) cs = (.number n, some r)) :
    readValue (fuel' + 1) (cs ++ rest) = (.number n, some (r ++ rest)) := by
  rw [readValue] at h
  split at h
  case h_1 => simp [Draft.stop] at h
  case h_2 => exact absurd h (readWord_ne_number (by simp))
  case h_3 => exact absurd h (readWord_ne_number (by simp))
  case h_4 => exact absurd h (readWord_ne_number (by simp))
  case h_5 => exact absurd h readTextToken_ne_number
  case h_6 heq =>
    rw [readValue, skipBlanks_append heq]
    exact readNumber_append hr h
  case h_7 => simp at h
  case h_8 => simp at h
  case h_9 heq =>
    split_ifs at h with hc
    · rw [readValue_of_isDigit hc (skipBlanks_append heq rest), ← List.cons_append]
      exact readNumber_append hr h
    · simp [Draft.stop] at h

/-- The text of a number starts with a sign or a digit. -/
lemma head_of_readValue_number {n : Number} {fuel : Nat}
    (h : readValue (fuel + 1) cs = (.number n, some r)) :
    ∃ c behind, skipBlanks cs = c :: behind ∧ (c = '-' ∨ c.isDigit = true) := by
  rw [readValue] at h
  split at h
  case h_1 => simp [Draft.stop] at h
  case h_2 => exact absurd h (readWord_ne_number (by simp))
  case h_3 => exact absurd h (readWord_ne_number (by simp))
  case h_4 => exact absurd h (readWord_ne_number (by simp))
  case h_5 => exact absurd h readTextToken_ne_number
  case h_6 heq => exact ⟨_, _, heq, .inl rfl⟩
  case h_7 => simp at h
  case h_8 => simp at h
  case h_9 heq =>
    split_ifs at h with hc
    · exact ⟨_, _, heq, .inr hc⟩
    · simp [Draft.stop] at h

/-! ## Numbers that are read back -/

/-- A number that is read back from its numeral, to the last character. -/
def Number.Legible (n : Number) : Prop := readValue 1 n.numeral.toList = (.number n, some [])

instance Number.Legible.decidable (n : Number) : Decidable n.Legible :=
  match h : Json.readValue 1 n.numeral.toList with
  | (.number m, some []) =>
    if hm : m = n then isTrue (by rw [Number.Legible, h, hm])
    else isFalse (by rw [Number.Legible, h]; simp [hm])
  | (.number m, some (c :: r)) => isFalse (by rw [Number.Legible, h]; simp)
  | (.number m, none) => isFalse (by rw [Number.Legible, h]; simp)
  | (.null, _) | (.bool _, _) | (.text _, _) | (.array _, _) | (.object _, _)
  | (.unreadable _, _) | (.broken _, _) => isFalse (by rw [Number.Legible, h]; simp)

/-- **A legible number is read back wherever its numeral can end.** -/
theorem Number.Legible.readValue {n : Number} (hn : n.Legible) (hr : EndsNumber rest)
    (fuel : Nat) : readValue (fuel + 1) (n.numeral.toList ++ rest) = (.number n, some rest) :=
  readValue_number_append hr hn

/-- The numbers that values hold: integers that the reader keeps as integers, and finite
floating-point numbers. -/
def Number.Proper : Number → Prop
  | .int n => -9223372036854775808 ≤ n ∧ n ≤ maxInteger
  | .float x => x.isFinite = true

instance Number.Proper.decidable : DecidablePred Number.Proper
  | .int n => inferInstanceAs (Decidable (-9223372036854775808 ≤ n ∧ n ≤ maxInteger))
  | .float x => inferInstanceAs (Decidable (x.isFinite = true))

lemma le_ofDigitChars (ds : List Char) (s : Nat) : s ≤ Nat.ofDigitChars 10 ds s := by
  rw [Nat.ofDigitChars_eq_ofDigitChars_zero]
  exact le_add_right (Nat.le_mul_of_pos_left s (by positivity))

/-- Digits are taken as long as their value fits. -/
lemma absorb_digits (ds : List Char) : ∀ s : Nat, (∀ c ∈ ds, c.isDigit = true) →
    Nat.ofDigitChars 10 ds s ≤ maxInteger →
      absorb s ds = (Nat.ofDigitChars 10 ds s, ds.length, []) := by
  induction ds with
  | nil => intro s _ _; simp [absorb]
  | cons c ds ih =>
      intro s hds hle
      rw [Nat.ofDigitChars_cons, mul_comm 10 s] at hle ⊢
      have hfits : ¬ maxInteger < s * 10 + (c.toNat - '0'.toNat) :=
        not_lt.mpr ((le_ofDigitChars ds _).trans hle)
      rw [absorb, digit?_of_isDigit (hds c List.mem_cons_self)]
      dsimp only
      rw [if_neg hfits, ih _ (fun c hc => hds c (List.mem_cons_of_mem _ hc)) hle,
        List.length_cons]

/-- A numeral starts with a zero only when it is the zero. -/
lemma eq_nil_of_toDigits {k : Nat} (h : Nat.toDigits 10 k = '0' :: cs) : cs = [] := by
  induction k using Nat.strong_induction_on generalizing cs with
  | _ k ih =>
      by_cases hk : k < 10
      · rw [Nat.toDigits_of_lt_base hk] at h
        exact (List.cons.inj h).2.symm
      · rw [Nat.toDigits_of_base_le (by decide) (not_lt.mp hk)] at h
        obtain ⟨c, ds, hds⟩ :=
          List.exists_cons_of_ne_nil (Nat.toDigits_ne_nil (n := k / 10) (b := 10))
        rw [hds, List.cons_append, List.cons.injEq] at h
        obtain ⟨rfl, -⟩ := h
        have hnil := ih (k / 10) (by omega) hds
        subst hnil
        have hvalue := congrArg (Nat.ofDigitChars 10 · 0) hds
        simp only [Nat.ofDigitChars_ten_toDigits] at hvalue
        have hzero : Nat.ofDigitChars 10 ['0'] 0 = 0 := by decide
        omega

lemma exists_toDigits (k : Nat) :
    ∃ c cs, Nat.toDigits 10 k = c :: cs ∧ ∀ c' ∈ c :: cs, c'.isDigit = true := by
  obtain ⟨c, cs, hcs⟩ := List.exists_cons_of_ne_nil (Nat.toDigits_ne_nil (n := k) (b := 10))
  exact ⟨c, cs, hcs, fun c' hc' =>
    Nat.isDigit_of_mem_toDigits (by decide) (by decide) (hcs ▸ hc')⟩

lemma readNumber_toDigits {k : Nat} (hk : k ≤ maxInteger) :
    readNumber negative (Nat.toDigits 10 k) =
      if !negative then (.number (.int k), some [])
      else if k = 0 || 9223372036854775808 < k then floatToken true k 0 []
      else (.number (.int (-k)), some []) := by
  obtain ⟨c, cs, hcs, hdigits⟩ := exists_toDigits k
  have hvalue : Nat.ofDigitChars 10 (c :: cs) 0 = k := by
    rw [← hcs, Nat.ofDigitChars_ten_toDigits]
  have hc := hdigits c List.mem_cons_self
  have hlead : (decide (c = '0') && cs.head?.any Char.isDigit) = false := by
    by_cases hzero : c = '0'
    · subst hzero
      simp [eq_nil_of_toDigits hcs]
    · simp [hzero]
  rw [hcs, readNumber, absorb_digits (c :: cs) 0 hdigits (by rwa [hvalue])]
  simp [hc, hlead, hvalue, spanDigits]

/-- A digit is no blank. -/
lemma isBlank_of_isDigit {c : Char} (hc : c.isDigit = true) : isBlank c = false := by
  by_contra hblank
  rw [Bool.not_eq_false, isBlank] at hblank
  simp only [Bool.or_eq_true, decide_eq_true_eq] at hblank
  rcases hblank with ((rfl | rfl) | rfl) | rfl <;> exact absurd hc (by decide)

/-- **Integers that fit are read back.** -/
theorem legible_int {n : Int} (h : (Number.int n).Proper) : (Number.int n).Legible := by
  cases n with
  | ofNat k =>
      obtain ⟨c, cs, hcs, hdigits⟩ := exists_toDigits k
      have hc := hdigits c List.mem_cons_self
      have hk : k ≤ maxInteger := Int.ofNat_le.mp h.2
      rw [Number.Legible, Number.numeral, intNumeral, String.toList_ofList,
        readValue_of_isDigit hc (by rw [hcs, skipBlanks_cons (isBlank_of_isDigit hc)]), ← hcs,
        readNumber_toDigits hk]
      rfl
  | negSucc k =>
      have hk : k + 1 ≤ 9223372036854775808 := by
        have := h.1
        omega
      have hmax : k + 1 ≤ maxInteger := hk.trans (by decide)
      have hsmall : ¬ 9223372036854775808 < k + 1 := not_lt.mpr hk
      rw [Number.Legible, Number.numeral, intNumeral, String.toList_ofList, readValue,
        skipBlanks_cons (by decide)]
      change readNumber true (Nat.toDigits 10 (k + 1)) = _
      rw [readNumber_toDigits hmax]
      simp [hsmall, Int.negSucc_eq]

end Blockflow.Json
