import Blockflow.Proofs.Json.Canonical

/-!
# What a text's draft holds

Whatever a text says, its draft holds integers of sixty-four bits and finite floating-point
numbers.  A greater number in the text is rounded or refused.

* `isFinite_of_scaled` — the number of a significand and a power of ten is finite.
* `proper_readNumber` — the token of a number.
* `ReadsProper`, `readsProper` — the readers, which call each other, with any fuel.
* **`Document.proper_read`** — the draft of a text is proper.
-/

namespace Blockflow.Json

variable {cs rest : List Char} {negative : Bool} {significand : Nat} {shift : Int}

/-! ## Scaled significands -/

/-- A power of ten is at least one, even when rounded. -/
lemma one_le_value_powerOfTen (k : Nat) : 1 ≤ (powerOfTen k).value := by
  have hone : (⟨false, 1023 * 2 ^ 52⟩ : Double).value = 1 := by
    have hvalue : (⟨false, 1023 * 2 ^ 52⟩ : Double).value =
        (2 ^ 52 : Nat) * (2 : ℚ) ^ (-52 : ℤ) := by rfl
    rw [hvalue]
    norm_num
  rw [← hone]
  refine Binary.value_le_ofRatio Nat.one_pos (by rfl) ?_
  rw [hone, Nat.cast_one, div_one]
  exact_mod_cast Nat.pow_pos (by decide)

lemma isFinite_shrink (x : Double) (places : Nat) (h : x.isFinite = true) :
    (shrink x places).isFinite = true := by
  induction x, places using shrink.induct with
  | case1 x places hplaces =>
      rw [shrink, if_pos hplaces]
      exact Binary.isFinite_scaleDown h (one_le_value_powerOfTen _)
  | case2 x places hplaces hzero =>
      rw [shrink, if_neg hplaces, if_pos hzero]
      exact h
  | case3 x places hplaces hzero ih =>
      rw [shrink, if_neg hplaces, if_neg hzero]
      exact ih (Binary.isFinite_scaleDown h (one_le_value_powerOfTen _))

lemma isFinite_scaleUp {x y : Double} (h : (x.scaleUp y).isInfinite ≠ true) :
    (x.scaleUp y).isFinite = true := by
  have hle : (x.scaleUp y).magnitude ≤ FloatFormat.double.infinity :=
    FloatFormat.roundRatio_le_infinity
  have hne : (x.scaleUp y).magnitude ≠ FloatFormat.double.infinity := by
    simpa [Binary.isInfinite] using h
  exact decide_eq_true (lt_of_le_of_ne hle hne)

/-- **The number of a significand and a power of ten is finite** if there is one. -/
lemma isFinite_of_scaled {x : Double} {exponent : Int} (hs : significand ≤ maxInteger)
    (h : scaled significand exponent = some x) : x.isFinite = true := by
  have hfinite : (Binary.ofRatio false significand 1 : Double).isFinite = true :=
    Binary.isFinite_ofRatio_one (hs.trans (by decide))
  cases exponent with
  | ofNat k =>
      simp only [scaled] at h
      split_ifs at h with hzero hlarge hinfinite
      · cases h
        exact hfinite
      · cases h
        exact isFinite_scaleUp hinfinite
  | negSucc k =>
      cases h
      exact isFinite_shrink _ _ hfinite

/-! ## Tokens of numbers -/

lemma absorb_le (s : Nat) (cs : List Char) (hs : s ≤ maxInteger) :
    (absorb s cs).1 ≤ maxInteger := by
  induction cs generalizing s with
  | nil => exact hs
  | cons c cs ih =>
      rw [absorb]
      split
      · split_ifs with hlarge
        · exact hs
        · exact ih _ (not_lt.mp hlarge)
      · exact hs

lemma proper_floatToken {exponent : Int} (hs : significand ≤ maxInteger) :
    (floatToken negative significand exponent rest).1.Proper := by
  unfold floatToken
  split
  · rename_i x hx
    have hfinite := isFinite_of_scaled hs hx
    cases negative <;> exact hfinite
  · trivial

lemma proper_readPower {down : Bool} (hs : significand ≤ maxInteger) :
    (readPower negative down significand shift cs).1.Proper := by
  unfold readPower
  split
  · trivial
  · split_ifs
    · exact proper_floatToken hs
    · exact proper_floatToken hs
    · trivial

lemma proper_readExponent (hs : significand ≤ maxInteger) :
    (readExponent negative significand shift cs).1.Proper := by
  rw [readExponent_eq]
  split <;> exact proper_readPower hs

lemma proper_readDecimals (hs : significand ≤ maxInteger) :
    (readDecimals negative significand shift cs).1.Proper := by
  have hle := absorb_le significand cs hs
  unfold readDecimals
  dsimp only
  split
  · trivial
  · split
    · exact proper_readExponent hle
    · exact proper_readExponent hle
    · exact proper_floatToken hle

/-- The token of a number holds a proper number, if any. -/
lemma proper_readNumber : (readNumber negative cs).1.Proper := by
  unfold readNumber
  split
  · trivial
  rename_i c r
  have hle := absorb_le 0 (c :: r) (Nat.zero_le _)
  dsimp only
  split
  · trivial
  split
  · trivial
  split
  · exact proper_readDecimals hle
  · exact proper_readExponent hle
  · exact proper_readExponent hle
  · split_ifs with hdropped hsign hlow
    · exact proper_floatToken hle
    · exact ⟨by omega, by exact_mod_cast hle⟩
    · exact proper_floatToken hle
    · simp only [Bool.or_eq_true, decide_eq_true_eq, not_or, not_lt] at hlow
      have hmax : (maxInteger : ℤ) = 18446744073709551615 := rfl
      exact ⟨by omega, by omega⟩

/-! ## Whole texts -/

lemma proper_readTextToken : (readTextToken cs).1.Proper := by
  unfold readTextToken
  split
  · trivial
  · split <;> trivial

lemma proper_readWord {d : Draft} (hd : d.Proper) (word cs : List Char) :
    (readWord d word cs).1.Proper := by
  induction word generalizing cs with
  | nil => exact hd
  | cons w ws ih =>
      cases cs with
      | nil => trivial
      | cons c cs =>
          rw [readWord]
          split_ifs
          · exact ih cs
          · trivial

/-- **What the readers give holds proper numbers**, with so much fuel.  They call each other, so
this is proved of all of them at once. -/
structure ReadsProper (fuel : Nat) : Prop where
  value : ∀ cs, (readValue fuel cs).1.Proper
  items : ∀ first cs, Draft.ProperItems (readItems fuel first cs).1
  item : ∀ cs, Draft.ProperItems (readItem fuel cs).1
  members : ∀ first cs, Draft.ProperMembers (readMembers fuel first cs).1
  member : ∀ cs, Draft.ProperMembers (readMember fuel cs).1
  memberValue : ∀ key cs, Draft.ProperMembers (readMemberValue fuel key cs).1

namespace ReadsProper

variable {fuel : Nat}

/-- Without fuel nothing is read. -/
lemma zero : ReadsProper 0 where
  value _ := by rw [readValue]; trivial
  items _ _ := by rw [readItems]; exact ⟨trivial, trivial⟩
  item _ := by rw [readItem]; exact ⟨trivial, trivial⟩
  members _ _ := by rw [readMembers]; exact ⟨trivial, trivial⟩
  member _ := by rw [readMember]; exact ⟨trivial, trivial⟩
  memberValue _ _ := by rw [readMemberValue]; exact ⟨trivial, trivial⟩

lemma value_succ (h : ReadsProper fuel) (cs : List Char) : (readValue (fuel + 1) cs).1.Proper := by
  rw [readValue]
  split
  · trivial
  · exact proper_readWord (by trivial) _ _
  · exact proper_readWord (by trivial) _ _
  · exact proper_readWord (by trivial) _ _
  · exact proper_readTextToken
  · exact proper_readNumber
  · exact h.items _ _
  · exact h.members _ _
  · split_ifs
    · exact proper_readNumber
    · trivial

lemma items_succ (h : ReadsProper fuel) (first : Bool) (cs : List Char) :
    Draft.ProperItems (readItems (fuel + 1) first cs).1 := by
  rw [readItems]
  split
  · exact ⟨trivial, trivial⟩
  · trivial
  · split_ifs
    · exact h.item _
    · split
      · exact ⟨trivial, trivial⟩
      · exact ⟨trivial, trivial⟩
      · exact h.item _
    · exact ⟨trivial, trivial⟩

lemma item_succ (h : ReadsProper fuel) (cs : List Char) :
    Draft.ProperItems (readItem (fuel + 1) cs).1 := by
  rw [readItem]
  have hvalue := h.value cs
  split
  · next heq =>
      rw [heq] at hvalue
      exact ⟨hvalue, trivial⟩
  · next heq =>
      rw [heq] at hvalue
      exact ⟨hvalue, h.items _ _⟩

lemma members_succ (h : ReadsProper fuel) (first : Bool) (cs : List Char) :
    Draft.ProperMembers (readMembers (fuel + 1) first cs).1 := by
  rw [readMembers]
  dsimp only
  split
  · exact ⟨trivial, trivial⟩
  · trivial
  · split_ifs
    · exact h.member _
    · exact ⟨trivial, trivial⟩
    · split
      · exact ⟨trivial, trivial⟩
      · exact h.member _
      · exact ⟨trivial, trivial⟩
      · exact ⟨trivial, trivial⟩
    · exact ⟨trivial, trivial⟩

lemma member_succ (h : ReadsProper fuel) (cs : List Char) :
    Draft.ProperMembers (readMember (fuel + 1) cs).1 := by
  rw [readMember]
  split
  · exact h.memberValue _ _
  · exact h.memberValue _ _
  · exact ⟨trivial, trivial⟩
  · exact ⟨trivial, trivial⟩

lemma memberValue_succ (h : ReadsProper fuel) (key : Draft.Key) (cs : List Char) :
    Draft.ProperMembers (readMemberValue (fuel + 1) key cs).1 := by
  rw [readMemberValue]
  split
  · exact ⟨trivial, trivial⟩
  · next behind _ =>
      have hvalue := h.value behind
      split
      · next heq =>
          rw [heq] at hvalue
          exact ⟨hvalue, trivial⟩
      · next heq =>
          rw [heq] at hvalue
          exact ⟨hvalue, h.members _ _⟩
  · exact ⟨trivial, trivial⟩

lemma succ (h : ReadsProper fuel) : ReadsProper (fuel + 1) :=
  ⟨h.value_succ, h.items_succ, h.item_succ, h.members_succ, h.member_succ, h.memberValue_succ⟩

end ReadsProper

lemma readsProper (fuel : Nat) : ReadsProper fuel := by
  induction fuel with
  | zero => exact .zero
  | succ fuel ih => exact ih.succ

/-- **The draft of a text is proper.** -/
theorem Document.proper_read (source : String) : (Document.read source).draft.Proper := by
  have h := (readsProper (4 * source.toList.length + 8)).value source.toList
  unfold Document.read
  dsimp only
  split <;> rename_i heq <;> rw [heq] at h <;> exact h

end Blockflow.Json
