import Blockflow.Proofs.Json.Numeral

/-!
# Written values are read back

The compact text of a value is read as that value's own draft.  The only thing that can keep it
from being read so is a floating-point number whose numeral means another number to the reader.

* `readText_escaped` — texts, character by character.
* `Json.numbers`, `Json.Legible` — the numbers in a value, and values all of whose numbers are
  read back.
* `readValue_compact` — a legible value in front of other text.
* **`Document.read_compact`** — the compact text of a legible value is the draft of that value.
-/

namespace Blockflow.Json

variable {rest : List Char}

/-! ## Quoted texts -/

lemma escapeChar_ne_nil (c : Char) : escapeChar c ≠ [] := by
  unfold escapeChar
  split_ifs <;> exact List.cons_ne_nil _ _

lemma length_le_escaped (s : List Char) : s.length ≤ (s.flatMap escapeChar).length := by
  induction s with
  | nil => simp
  | cons c s ih =>
      have hc : 0 < (escapeChar c).length := List.length_pos_iff.mpr (escapeChar_ne_nil c)
      rw [List.flatMap_cons, List.length_append, List.length_cons]
      omega

/-- Hexadecimal digits are read back. -/
lemma hex?_hexDigit : ∀ n < 16, hex? (hexDigit n) = some n := by decide

/-- The four digits of a control character are read back. -/
lemma readUnit_hexDigits {c : Char} (hc : c.toNat < 0x20) (rest : List Char) :
    readUnit ('0' :: '0' :: hexDigit (c.toNat / 16) :: hexDigit (c.toNat % 16) :: rest) =
      .ok (c, rest) := by
  have hhigh := hex?_hexDigit (c.toNat / 16) (by omega)
  have hlow := hex?_hexDigit (c.toNat % 16) (by omega)
  have hzero : hex? '0' = some 0 := by decide
  have hvalue : ((0 * 16 + 0) * 16 + c.toNat / 16) * 16 + c.toNat % 16 = c.toNat := by omega
  simp only [readUnit, readHex, hzero, hhigh, hlow, hvalue]
  have htrailing : ¬ 0xDC00 ≤ c.toNat := by omega
  have hplane : c.toNat < 0xD800 := by omega
  simp [htrailing, hplane, Char.ofNat_toNat]

/-- **A character is read back from inside quotes.** -/
lemma readText_escapeChar (fuel : Nat) (acc : List Char) (c : Char) (rest : List Char) :
    readText (fuel + 1) acc (escapeChar c ++ rest) = readText fuel (c :: acc) rest := by
  unfold escapeChar
  split_ifs with hquote hslash hplain h8 h9 h10 h12 h13
  · subst hquote
    rfl
  · subst hslash
    rfl
  · have hvisible : ¬ c.toNat < 0x20 := not_lt.mpr hplain
    simp [readText, hslash, hvisible]
  · rw [show c = '\x08' from Char.ext (UInt32.toNat.inj h8)]
    rfl
  · rw [show c = '\t' from Char.ext (UInt32.toNat.inj h9)]
    rfl
  · rw [show c = '\n' from Char.ext (UInt32.toNat.inj h10)]
    rfl
  · rw [show c = '\x0c' from Char.ext (UInt32.toNat.inj h12)]
    rfl
  · rw [show c = '\r' from Char.ext (UInt32.toNat.inj h13)]
    rfl
  · simp [readText, readUnit_hexDigits (not_le.mp hplain)]

lemma readText_escaped (s : List Char) : ∀ (fuel : Nat) (acc : List Char), s.length < fuel →
    readText fuel acc (s.flatMap escapeChar ++ '"' :: rest) =
      .ok (String.ofList (acc.reverse ++ s), rest) := by
  induction s with
  | nil =>
      intro fuel acc hfuel
      obtain ⟨fuel, rfl⟩ := Nat.exists_eq_add_one_of_ne_zero (by omega : fuel ≠ 0)
      simp [readText]
  | cons c s ih =>
      intro fuel acc hfuel
      rw [List.length_cons] at hfuel
      obtain ⟨fuel, rfl⟩ := Nat.exists_eq_add_one_of_ne_zero (by omega : fuel ≠ 0)
      rw [List.flatMap_cons, List.append_assoc, readText_escapeChar, ih fuel _ (by omega)]
      simp

/-- The opening quote of a text is followed by its characters and the closing quote. -/
lemma toList_quote (s : String) :
    (quote s).toList = '"' :: (s.toList.flatMap escapeChar ++ ['"']) := String.toList_ofList

/-- A quoted text is read back by the reader that stands behind its opening quote. -/
lemma readTextToken_quoted (s : String) (rest : List Char) :
    readTextToken (s.toList.flatMap escapeChar ++ '"' :: rest) = (.text s, some rest) := by
  have hlength := length_le_escaped s.toList
  rw [readTextToken, readText_escaped s.toList _ _
    (by simp only [List.length_append, List.length_cons]; omega)]
  simp [String.ofList_toList]

/-! ## The numbers in a value -/

mutual

/-- The numbers in a value, in the order of its text. -/
def numbers : Json → List Number
  | .number n => [n]
  | .array xs => numbersItems xs
  | .object ms => numbersMembers ms
  | _ => []

/-- The numbers in the items of an array. -/
def numbersItems : List Json → List Number
  | [] => []
  | x :: xs => numbers x ++ numbersItems xs

/-- The numbers in the members of an object. -/
def numbersMembers : List (String × Json) → List Number
  | [] => []
  | (_, x) :: ms => numbers x ++ numbersMembers ms

end

/-- A value whose numbers are read back from their numerals. -/
def Legible (v : Json) : Prop := ∀ n ∈ v.numbers, n.Legible

lemma legible_array_cons {x : Json} {xs : List Json} :
    Legible (.array (x :: xs)) ↔ x.Legible ∧ Legible (.array xs) := by
  simp only [Legible, numbers, numbersItems, List.mem_append, or_imp, forall_and]

lemma legible_object_cons {m : String × Json} {ms : List (String × Json)} :
    Legible (.object (m :: ms)) ↔ m.2.Legible ∧ Legible (.object ms) := by
  simp only [Legible, numbers, numbersMembers, List.mem_append, or_imp, forall_and]

/-! ## Values in front of other text -/

/-- The items of an array behind its first one, each behind a comma. -/
def itemsBehind (xs : List Json) : List Char := xs.flatMap fun x => ',' :: x.compact.toList

/-- The text of a member. -/
def memberText (m : String × Json) : List Char :=
  (quote m.1).toList ++ ':' :: m.2.compact.toList

/-- The members of an object behind its first one, each behind a comma. -/
def membersBehind (ms : List (String × Json)) : List Char := ms.flatMap fun m => ',' :: memberText m

lemma toList_compactItems (x : Json) (xs : List Json) :
    (compactItems (x :: xs)).toList = x.compact.toList ++ itemsBehind xs := by
  induction xs generalizing x with
  | nil => simp [compactItems, itemsBehind]
  | cons y xs ih => simp [compactItems, itemsBehind, ih]

lemma toList_compactMembers (m : String × Json) (ms : List (String × Json)) :
    (compactMembers (m :: ms)).toList = memberText m ++ membersBehind ms := by
  induction ms generalizing m with
  | nil =>
      obtain ⟨k, x⟩ := m
      simp [compactMembers, membersBehind, memberText]
  | cons m' ms ih =>
      obtain ⟨k, x⟩ := m
      simp [compactMembers, membersBehind, memberText, ih]

lemma endsNumber_of_mark {c : Char} (hc : c = ',' ∨ c = ']' ∨ c = '\x7d') (rest : List Char) :
    EndsNumber (c :: rest) := by
  intro c' hc'
  obtain rfl : c = c' := by simpa using hc'
  rcases hc with rfl | rfl | rfl <;> decide

/-- The text of a legible value starts neither with a blank nor with a closing bracket. -/
lemma head_of_compact {v : Json} (hv : v.Legible) :
    ∃ c behind, skipBlanks v.compact.toList = c :: behind ∧ c ≠ ']' := by
  cases v with
  | number n =>
      have hn : readValue 1 n.numeral.toList = (.number n, some []) := hv n (by simp [numbers])
      obtain ⟨c, behind, hc, hkind⟩ := head_of_readValue_number hn
      refine ⟨c, behind, hc, ?_⟩
      rintro rfl
      rcases hkind with h | h <;> exact absurd h (by decide)
  | null => exact ⟨'n', ['u', 'l', 'l'], by decide, by decide⟩
  | bool b =>
      cases b with
      | true => exact ⟨'t', ['r', 'u', 'e'], by decide, by decide⟩
      | false => exact ⟨'f', ['a', 'l', 's', 'e'], by decide, by decide⟩
  | text s =>
      rw [compact, toList_quote, skipBlanks_cons (by decide)]
      exact ⟨_, _, rfl, by decide⟩
  | array xs =>
      refine ⟨'[', (compactItems xs).toList ++ [']'], ?_, by decide⟩
      rw [compact, String.toList_append, String.toList_append]
      exact skipBlanks_cons (by decide) _
  | object ms =>
      refine ⟨'\x7b', (compactMembers ms).toList ++ ['\x7d'], ?_, by decide⟩
      rw [compact, String.toList_append, String.toList_append]
      exact skipBlanks_cons (by decide) _

/-! ### Reading inside an array -/

lemma readItem_skipBlanks (fuel : Nat) (cs : List Char) :
    readItem fuel (skipBlanks cs) = readItem fuel cs := by
  cases fuel with
  | zero => simp [readItem]
  | succ fuel => rw [readItem, readItem, readValue_skipBlanks]

lemma readItems_end (fuel : Nat) (first : Bool) (rest : List Char) :
    readItems (fuel + 1) first (']' :: rest) = ([], some rest) := by
  rw [readItems, skipBlanks_cons (by decide)]
  rfl

lemma readItems_first {c : Char} {cs r : List Char} (h : skipBlanks cs = c :: r) (hc : c ≠ ']')
    (fuel : Nat) : readItems (fuel + 1) true cs = readItem fuel cs := by
  rw [readItems, h, ← readItem_skipBlanks fuel cs, h]
  split
  case h_1 heq => cases heq
  case h_2 heq =>
    cases heq
    exact absurd rfl hc
  case h_3 heq =>
    cases heq
    rfl

lemma readItems_comma {c : Char} {cs r : List Char} (h : skipBlanks cs = c :: r) (hc : c ≠ ']')
    (fuel : Nat) : readItems (fuel + 1) false (',' :: cs) = readItem fuel cs := by
  rw [readItems, skipBlanks_cons (by decide), ← readItem_skipBlanks fuel cs]
  split
  case h_1 heq => cases heq
  case h_2 heq => cases heq
  case h_3 heq =>
    cases heq
    rw [if_neg Bool.false_ne_true, if_pos rfl, h]
    split
    case h_1 heq => cases heq
    case h_2 heq =>
      cases heq
      exact absurd rfl hc
    case h_3 => rfl

lemma readItem_of_readValue {fuel : Nat} {cs behind : List Char} {d : Draft}
    {items : List Draft} (h : readValue fuel cs = (d, some behind))
    (hitems : readItems fuel false behind = (items, some rest)) :
    readItem (fuel + 1) cs = (d :: items, some rest) := by
  rw [readItem, h]
  simp only [hitems]

/-! ### Reading inside an object -/

lemma readMembers_end (fuel : Nat) (first : Bool) (rest : List Char) :
    readMembers (fuel + 1) first ('\x7d' :: rest) = ([], some rest) := by
  rw [readMembers, skipBlanks_cons (by decide)]
  rfl

lemma readMembers_first (fuel : Nat) (cs : List Char) :
    readMembers (fuel + 1) true ('"' :: cs) = readMember fuel cs := by
  rw [readMembers, skipBlanks_cons (by decide)]
  rfl

lemma readMembers_comma (fuel : Nat) (cs : List Char) :
    readMembers (fuel + 1) false (',' :: '"' :: cs) = readMember fuel cs := by
  rw [readMembers, skipBlanks_cons (by decide)]
  rfl

lemma readMember_of_readValue {fuel : Nat} {k : String} {cs behind : List Char} {d : Draft}
    {members : List (Draft.Key × Draft)} (h : readValue fuel cs = (d, some behind))
    (hmembers : readMembers fuel false behind = (members, some rest)) :
    readMember (fuel + 2) (k.toList.flatMap escapeChar ++ '"' :: ':' :: cs) =
      ((.text k, d) :: members, some rest) := by
  rw [readMember, readTextToken_quoted]
  change readMemberValue (fuel + 1) (.text k) (':' :: cs) = _
  rw [readMemberValue, skipBlanks_cons (by decide)]
  simp only [h, hmembers]

/-! ### The whole value -/

lemma itemsBehind_cons (x : Json) (xs : List Json) :
    itemsBehind (x :: xs) = ',' :: (x.compact.toList ++ itemsBehind xs) := rfl

lemma membersBehind_cons (k : String) (x : Json) (ms : List (String × Json)) :
    membersBehind ((k, x) :: ms) =
      ',' :: '"' :: (k.toList.flatMap escapeChar ++ '"' :: ':' ::
        (x.compact.toList ++ membersBehind ms)) := by
  simp [membersBehind, memberText, toList_quote]

lemma toList_compact_array_cons (x : Json) (xs : List Json) :
    (compact (.array (x :: xs))).toList =
      '[' :: (x.compact.toList ++ (itemsBehind xs ++ [']'])) := by
  simp [compact, toList_compactItems]

lemma toList_compact_object_cons (k : String) (x : Json) (ms : List (String × Json)) :
    (compact (.object ((k, x) :: ms))).toList =
      '\x7b' :: '"' :: (k.toList.flatMap escapeChar ++ '"' :: ':' ::
        (x.compact.toList ++ (membersBehind ms ++ ['\x7d']))) := by
  simp [compact, toList_compactMembers, memberText, toList_quote]

lemma endsNumber_itemsBehind (xs : List Json) (rest : List Char) :
    EndsNumber (itemsBehind xs ++ ']' :: rest) := by
  cases xs with
  | nil => exact endsNumber_of_mark (.inr (.inl rfl)) rest
  | cons x xs => exact endsNumber_of_mark (.inl rfl) _

lemma endsNumber_membersBehind (ms : List (String × Json)) (rest : List Char) :
    EndsNumber (membersBehind ms ++ '\x7d' :: rest) := by
  cases ms with
  | nil => exact endsNumber_of_mark (.inr (.inr rfl)) rest
  | cons m ms => exact endsNumber_of_mark (.inl rfl) _

mutual

/-- **A legible value is read back in front of text that ends a number.** -/
theorem readValue_compact (v : Json) (hv : v.Legible) (rest : List Char) (hr : EndsNumber rest)
    (fuel : Nat) (hfuel : 4 * v.compact.toList.length + 1 ≤ fuel) :
    readValue fuel (v.compact.toList ++ rest) = (Draft.ofJson v, some rest) := by
  obtain ⟨fuel, rfl⟩ := Nat.exists_eq_add_one_of_ne_zero (by omega : fuel ≠ 0)
  cases v with
  | null => rfl
  | bool b => cases b <;> rfl
  | number n => exact Number.Legible.readValue (hv n (by simp [numbers])) hr fuel
  | text s =>
      rw [compact, toList_quote, List.cons_append, List.append_assoc, readValue,
        skipBlanks_cons (by decide)]
      exact readTextToken_quoted s rest
  | array xs =>
      cases xs with
      | nil =>
          obtain ⟨fuel, rfl⟩ := Nat.exists_eq_add_one_of_ne_zero
            (by simp [compact, compactItems] at hfuel; omega : fuel ≠ 0)
          rfl
      | cons x xs =>
          obtain ⟨hx, hxs⟩ := legible_array_cons.mp hv
          obtain ⟨c, behind, hhead, hc⟩ := head_of_compact hx
          rw [toList_compact_array_cons] at hfuel ⊢
          simp only [List.length_cons, List.length_append] at hfuel
          obtain ⟨fuel, rfl⟩ := Nat.exists_eq_add_of_le' (by omega : 2 ≤ fuel)
          simp only [List.cons_append, List.append_assoc, List.nil_append]
          rw [readValue, skipBlanks_cons (by decide)]
          simp only [readItems_first (skipBlanks_append hhead _) hc]
          rw [readItem_of_readValue
            (readValue_compact x hx (itemsBehind xs ++ ']' :: rest) (endsNumber_itemsBehind xs rest)
              fuel (by omega))
            (readItems_behind xs hxs rest fuel (by omega))]
          rfl
  | object ms =>
      cases ms with
      | nil =>
          obtain ⟨fuel, rfl⟩ := Nat.exists_eq_add_one_of_ne_zero
            (by simp [compact, compactMembers] at hfuel; omega : fuel ≠ 0)
          rfl
      | cons m ms =>
          obtain ⟨k, x⟩ := m
          obtain ⟨hx, hms⟩ := legible_object_cons.mp hv
          rw [toList_compact_object_cons] at hfuel ⊢
          simp only [List.length_cons, List.length_append] at hfuel
          obtain ⟨fuel, rfl⟩ := Nat.exists_eq_add_of_le' (by omega : 3 ≤ fuel)
          simp only [List.cons_append, List.append_assoc, List.nil_append]
          rw [readValue, skipBlanks_cons (by decide)]
          simp only [readMembers_first]
          rw [readMember_of_readValue
            (readValue_compact x hx (membersBehind ms ++ '\x7d' :: rest)
              (endsNumber_membersBehind ms rest) fuel (by omega))
            (readMembers_behind ms hms rest fuel (by omega))]
          rfl

theorem readItems_behind (xs : List Json) (hxs : Legible (.array xs)) (rest : List Char)
    (fuel : Nat) (hfuel : 4 * (itemsBehind xs).length + 1 ≤ fuel) :
    readItems fuel false (itemsBehind xs ++ ']' :: rest) = (Draft.ofItems xs, some rest) := by
  match xs with
  | [] =>
      obtain ⟨fuel, rfl⟩ := Nat.exists_eq_add_one_of_ne_zero (by omega : fuel ≠ 0)
      exact readItems_end fuel false rest
  | x :: xs =>
      obtain ⟨hx, hxs⟩ := legible_array_cons.mp hxs
      obtain ⟨c, behind, hhead, hc⟩ := head_of_compact hx
      rw [itemsBehind_cons] at hfuel ⊢
      simp only [List.length_cons, List.length_append] at hfuel
      obtain ⟨fuel, rfl⟩ := Nat.exists_eq_add_of_le' (by omega : 2 ≤ fuel)
      rw [List.cons_append, List.append_assoc,
        readItems_comma (skipBlanks_append hhead _) hc]
      exact readItem_of_readValue
        (readValue_compact x hx (itemsBehind xs ++ ']' :: rest) (endsNumber_itemsBehind xs rest)
          fuel (by omega))
        (readItems_behind xs hxs rest fuel (by omega))

theorem readMembers_behind (ms : List (String × Json)) (hms : Legible (.object ms))
    (rest : List Char) (fuel : Nat) (hfuel : 4 * (membersBehind ms).length + 1 ≤ fuel) :
    readMembers fuel false (membersBehind ms ++ '\x7d' :: rest) =
      (Draft.ofMembers ms, some rest) := by
  match ms with
  | [] =>
      obtain ⟨fuel, rfl⟩ := Nat.exists_eq_add_one_of_ne_zero (by omega : fuel ≠ 0)
      exact readMembers_end fuel false rest
  | (k, x) :: ms =>
      obtain ⟨hx, hms⟩ := legible_object_cons.mp hms
      rw [membersBehind_cons] at hfuel ⊢
      simp only [List.length_cons, List.length_append] at hfuel
      obtain ⟨fuel, rfl⟩ := Nat.exists_eq_add_of_le' (by omega : 3 ≤ fuel)
      simp only [List.cons_append, List.append_assoc]
      rw [readMembers_comma]
      exact readMember_of_readValue
        (readValue_compact x hx (membersBehind ms ++ '\x7d' :: rest)
          (endsNumber_membersBehind ms rest) fuel (by omega))
        (readMembers_behind ms hms rest fuel (by omega))

end

/-- **The compact text of a legible value is the draft of that value**, with nothing behind it. -/
theorem Document.read_compact {v : Json} (hv : v.Legible) :
    Document.read v.compact = ⟨Draft.ofJson v, false⟩ := by
  have hread := readValue_compact v hv [] endsNumber_nil (4 * v.compact.toList.length + 8)
    (by omega)
  rw [List.append_nil] at hread
  rw [Document.read]
  simp [hread, skipBlanks]

/-- Decoding the text of a legible value is decoding the value as it stands in a text. -/
theorem Codec.decode_compact {α : Type} (c : Codec α) {v : Json} (hv : v.Legible) :
    c.decode v.compact = c.read .start (Draft.ofJson v) := by
  rw [decode, Document.read_compact hv]
  cases c.read .start (Draft.ofJson v) <;> simp

end Blockflow.Json
