import Blockflow.Proofs.Json.Canonical
import Blockflow.Proofs.Json.Numeral
import Mathlib.Data.List.Infix

/-!
# How far a reader reads

A reader takes its token off the front of the text.  What it leaves is the end of that text, and
behind the last item or member stands the closing bracket; where it leaves nothing, its draft holds
the place where it stopped.  So the text of an object, read to its end, stands between braces.

* `Leaves`, `Token.Single` — what a reader leaves of a text, and a token without parts.
* **`readersLeave`** — what the readers of values, items and members leave.
* `Draft.skipFault?_of_fault?` — what no reader minds, none that skips it does.
* `Document.Lists`, **`Document.Lists.braces`** — the text of an object and its braces.
* `Document.Lists.of_parse` — a text whose value is an object is the text of one.
-/

namespace Blockflow.Json

variable {cs cs' rest : List Char} {negative : Bool} {significand : Nat} {shift : Int} {n : Nat}

/-! ## What a reader leaves -/

/-- **What a reader leaves of a text** is what stands behind a mark in it, unless it stopped. -/
def Leaves (mark cs : List Char) (stopped : Bool) : Option (List Char) → Prop
  | some rest => mark ++ rest <:+ cs
  | none => stopped = true

namespace Leaves

variable {mark : List Char} {stopped stopped' : Bool} {left : Option (List Char)}

/-- What is left of the end of a text is left of the text. -/
lemma imp (h : Leaves mark cs stopped left) (hcs : cs <:+ cs')
    (hstopped : stopped = true → stopped' = true) : Leaves mark cs' stopped' left := by
  cases left with
  | none => exact hstopped h
  | some rest => exact List.IsSuffix.trans h hcs

lemma mono (h : Leaves mark cs stopped left) (hcs : cs <:+ cs') : Leaves mark cs' stopped left :=
  h.imp hcs id

/-- The mark may be forgotten. -/
lemma unmarked (h : Leaves mark cs stopped left) : Leaves [] cs stopped left := by
  cases left with
  | none => exact h
  | some rest => exact (List.suffix_append mark rest).trans h

end Leaves

/-- **A token without parts**: what is behind it is the end of the text. -/
structure Token.Single (cs : List Char) (t : Token) : Prop where
  flat : t.1.depth = 0
  left : Leaves [] cs t.1.skipFault?.isSome t.2

lemma Token.Single.mono {t : Token} (h : t.Single cs) (hcs : cs <:+ cs') : t.Single cs' :=
  ⟨h.flat, h.left.mono hcs⟩

/-- Reading stopped at once. -/
lemma single_broken (halt : Halt) : Token.Single cs (.broken halt, none) := ⟨rfl, rfl⟩

/-- What is behind a character is behind what is before it. -/
lemma suffix_of_cons {c : Char} (h : c :: rest <:+ cs) : rest <:+ cs :=
  (List.suffix_cons c rest).trans h

lemma suffix_skipBlanks (cs : List Char) : skipBlanks cs <:+ cs := List.dropWhile_suffix _

lemma suffix_spanDigits (cs : List Char) : (spanDigits cs).2 <:+ cs := List.dropWhile_suffix _

/-! ## Numbers and words -/

lemma suffix_absorb (s : Nat) (cs : List Char) : (absorb s cs).2.2 <:+ cs := by
  induction cs generalizing s with
  | nil => exact List.suffix_rfl
  | cons c cs ih =>
      rw [absorb]
      split
      · split_ifs
        · exact List.suffix_rfl
        · exact (ih _).trans (List.suffix_cons c cs)
      · exact List.suffix_rfl

lemma single_floatToken {exponent : Int} (h : rest <:+ cs) :
    Token.Single cs (floatToken negative significand exponent rest) := by
  unfold floatToken
  split <;> exact ⟨rfl, h⟩

lemma single_readPower {down : Bool} :
    Token.Single cs (readPower negative down significand shift cs) := by
  unfold readPower
  split
  · exact single_broken _
  · split_ifs
    · exact single_floatToken (List.dropWhile_suffix _)
    · exact single_floatToken (List.dropWhile_suffix _)
    · exact single_broken _

lemma single_readExponent : Token.Single cs (readExponent negative significand shift cs) := by
  rw [readExponent_eq]
  split
  · exact single_readPower.mono (List.suffix_cons _ _)
  · exact single_readPower.mono (List.suffix_cons _ _)
  · exact single_readPower

/-- What stands behind all the digits of a number. -/
lemma suffix_digits (s : Nat) (cs : List Char) : (spanDigits (absorb s cs).2.2).2 <:+ cs :=
  (suffix_spanDigits _).trans (suffix_absorb s cs)

lemma single_readDecimals : Token.Single cs (readDecimals negative significand shift cs) := by
  have hrest := suffix_digits significand cs
  unfold readDecimals
  dsimp only
  split
  · exact single_broken _
  · split
    · next h => exact single_readExponent.mono (suffix_of_cons (h ▸ hrest))
    · next h => exact single_readExponent.mono (suffix_of_cons (h ▸ hrest))
    · exact single_floatToken hrest

lemma single_readNumber : Token.Single cs (readNumber negative cs) := by
  unfold readNumber
  split
  · exact single_broken _
  rename_i c r
  have hrest := suffix_digits 0 (c :: r)
  dsimp only
  split
  · exact single_broken _
  split
  · exact single_broken _
  split
  · next h => exact single_readDecimals.mono (suffix_of_cons (h ▸ hrest))
  · next h => exact single_readExponent.mono (suffix_of_cons (h ▸ hrest))
  · next h => exact single_readExponent.mono (suffix_of_cons (h ▸ hrest))
  · split_ifs
    · exact single_floatToken hrest
    · exact ⟨rfl, hrest⟩
    · exact single_floatToken hrest
    · exact ⟨rfl, hrest⟩

lemma single_readWord {d : Draft} (hd : d.depth = 0) (word cs : List Char) :
    Token.Single cs (readWord d word cs) := by
  induction word generalizing cs with
  | nil => exact ⟨hd, List.suffix_rfl⟩
  | cons w ws ih =>
      cases cs with
      | nil => exact single_broken _
      | cons c cs =>
          rw [readWord]
          split_ifs
          · exact (ih cs).mono (List.suffix_cons c cs)
          · exact single_broken _

/-! ## Texts -/

lemma suffix_of_readHex (h : readHex cs = .ok (n, rest)) : rest <:+ cs := by
  unfold readHex at h
  split at h
  · split at h <;> cases h
    exact List.suffix_append [_, _, _, _] rest
  · split_ifs at h

lemma suffix_of_readUnit {c : Char} (h : readUnit cs = .ok (c, rest)) : rest <:+ cs := by
  unfold readUnit at h
  split at h
  · cases h
  rename_i n behind hunit
  have hbehind := suffix_of_readHex hunit
  split_ifs at h
  · simp only [Except.ok.injEq, Prod.mk.injEq] at h
    exact h.2 ▸ hbehind
  · split at h
    · cases h
    · cases h
    · split at h
      · cases h
      · next hpair =>
          split_ifs at h
          simp only [Except.ok.injEq, Prod.mk.injEq] at h
          rw [h.2] at hpair
          exact (suffix_of_readHex hpair).trans ((List.suffix_append ['\\', 'u'] _).trans hbehind)
    · cases h

lemma suffix_of_readText {fuel : Nat} {acc : List Char} {s : String}
    (h : readText fuel acc cs = .ok (s, rest)) : rest <:+ cs := by
  induction fuel generalizing acc cs with
  | zero => cases h
  | succ fuel ih =>
      unfold readText at h
      split at h
      · cases h
      · cases h
        exact List.suffix_cons _ _
      · cases h
      · split at h
        · next hunit =>
            exact (ih h).trans ((suffix_of_readUnit hunit).trans (List.suffix_append ['\\', 'u'] _))
        · cases h
      · split at h
        · exact (ih h).trans (List.suffix_append ['\\', _] _)
        · cases h
      · split_ifs at h
        exact (ih h).trans (List.suffix_cons _ _)

lemma suffix_of_skipText {fuel : Nat} (h : skipText fuel cs = .ok rest) : rest <:+ cs := by
  induction fuel generalizing cs with
  | zero => cases h
  | succ fuel ih =>
      unfold skipText at h
      split at h
      · cases h
      · cases h
        exact List.suffix_cons _ _
      · cases h
      · split at h
        · next hunit =>
            exact (ih h).trans ((suffix_of_readHex hunit).trans (List.suffix_append ['\\', 'u'] _))
        · cases h
      · split_ifs at h
        exact (ih h).trans (List.suffix_append ['\\', _] _)
      · split_ifs at h
        exact (ih h).trans (List.suffix_cons _ _)

lemma single_readTextToken : Token.Single cs (readTextToken cs) := by
  unfold readTextToken
  split
  · next h => exact ⟨rfl, suffix_of_readText h⟩
  · split
    · next h => exact ⟨rfl, suffix_of_skipText h⟩
    · exact single_broken _

/-! ## Values, items and members -/

lemma isSome_skipFaultItems?_cons (d : Draft) (items : List Draft) :
    (Draft.skipFaultItems? (d :: items)).isSome =
      (d.skipFault?.isSome || (Draft.skipFaultItems? items).isSome) := by
  simp [Draft.skipFaultItems?]

lemma isSome_skipFaultMembers?_cons (key : Draft.Key) (d : Draft)
    (members : List (Draft.Key × Draft)) :
    (Draft.skipFaultMembers? ((key, d) :: members)).isSome =
      (d.skipFault?.isSome || (Draft.skipFaultMembers? members).isSome) := by
  simp [Draft.skipFaultMembers?]

/-- What the readers leave with some fuel: behind a value the end of the text, behind items and
members what follows their closing bracket. -/
structure ReadersLeave (fuel : Nat) : Prop where
  value : ∀ cs, Leaves [] cs (readValue fuel cs).1.skipFault?.isSome (readValue fuel cs).2
  items : ∀ first cs, Leaves [']'] cs
    (Draft.skipFaultItems? (readItems fuel first cs).1).isSome (readItems fuel first cs).2
  item : ∀ cs, Leaves [']'] cs
    (Draft.skipFaultItems? (readItem fuel cs).1).isSome (readItem fuel cs).2
  members : ∀ first cs, Leaves ['\x7d'] cs
    (Draft.skipFaultMembers? (readMembers fuel first cs).1).isSome (readMembers fuel first cs).2
  member : ∀ cs, Leaves ['\x7d'] cs
    (Draft.skipFaultMembers? (readMember fuel cs).1).isSome (readMember fuel cs).2
  memberValue : ∀ key cs, Leaves ['\x7d'] cs
    (Draft.skipFaultMembers? (readMemberValue fuel key cs).1).isSome
    (readMemberValue fuel key cs).2

namespace ReadersLeave

variable {fuel : Nat} (h : ReadersLeave fuel)

include h

lemma readValue_succ (cs : List Char) :
    Leaves [] cs (readValue (fuel + 1) cs).1.skipFault?.isSome (readValue (fuel + 1) cs).2 := by
  have hcs := suffix_skipBlanks cs
  rw [readValue]
  split <;> rename_i heq <;> rw [heq] at hcs
  · rfl
  · exact ((single_readWord rfl _ _).mono (suffix_of_cons hcs)).left
  · exact ((single_readWord rfl _ _).mono (suffix_of_cons hcs)).left
  · exact ((single_readWord rfl _ _).mono (suffix_of_cons hcs)).left
  · exact (single_readTextToken.mono (suffix_of_cons hcs)).left
  · exact (single_readNumber.mono (suffix_of_cons hcs)).left
  · exact (h.items _ _).unmarked.mono (suffix_of_cons hcs)
  · exact (h.members _ _).unmarked.mono (suffix_of_cons hcs)
  · split_ifs
    · exact (single_readNumber.mono hcs).left
    · rfl

lemma readItems_succ (first : Bool) (cs : List Char) :
    Leaves [']'] cs (Draft.skipFaultItems? (readItems (fuel + 1) first cs).1).isSome
      (readItems (fuel + 1) first cs).2 := by
  have hcs := suffix_skipBlanks cs
  rw [readItems]
  split <;> rename_i heq <;> rw [heq] at hcs
  · rfl
  · exact hcs
  · split_ifs
    · exact (h.item _).mono hcs
    · have hbehind := (suffix_skipBlanks _).trans (suffix_of_cons hcs)
      split
      · rfl
      · rfl
      · exact (h.item _).mono hbehind
    · rfl

lemma readItem_succ (cs : List Char) :
    Leaves [']'] cs (Draft.skipFaultItems? (readItem (fuel + 1) cs).1).isSome
      (readItem (fuel + 1) cs).2 := by
  have hleft := h.value cs
  rw [readItem]
  split <;> rename_i heq <;> rw [heq] at hleft
  · rw [isSome_skipFaultItems?_cons]
    exact Bool.or_eq_true_iff.mpr (.inl hleft)
  · rw [isSome_skipFaultItems?_cons]
    exact (h.items _ _).imp hleft fun hstopped => Bool.or_eq_true_iff.mpr (.inr hstopped)

lemma readMembers_succ (first : Bool) (cs : List Char) :
    Leaves ['\x7d'] cs (Draft.skipFaultMembers? (readMembers (fuel + 1) first cs).1).isSome
      (readMembers (fuel + 1) first cs).2 := by
  have hcs := suffix_skipBlanks cs
  rw [readMembers]
  dsimp only
  split <;> rename_i heq <;> rw [heq] at hcs
  · rfl
  · exact hcs
  · split_ifs
    · exact (h.member _).mono (suffix_of_cons hcs)
    · rfl
    · have hbehind := (suffix_skipBlanks _).trans (suffix_of_cons hcs)
      split
      · rfl
      · next hquote => exact (h.member _).mono (suffix_of_cons (hquote ▸ hbehind))
      · rfl
      · rfl
    · rfl

lemma readMember_succ (cs : List Char) :
    Leaves ['\x7d'] cs (Draft.skipFaultMembers? (readMember (fuel + 1) cs).1).isSome
      (readMember (fuel + 1) cs).2 := by
  have hleft := (single_readTextToken : Token.Single cs _).left
  rw [readMember]
  split
  · next heq =>
      rw [heq] at hleft
      exact (h.memberValue _ _).mono hleft
  · next heq =>
      rw [heq] at hleft
      exact (h.memberValue _ _).mono hleft
  · rfl
  · rfl

lemma readMemberValue_succ (key : Draft.Key) (cs : List Char) :
    Leaves ['\x7d'] cs
      (Draft.skipFaultMembers? (readMemberValue (fuel + 1) key cs).1).isSome
      (readMemberValue (fuel + 1) key cs).2 := by
  have hcs := suffix_skipBlanks cs
  rw [readMemberValue]
  split
  · rfl
  · next behind heq =>
      rw [heq] at hcs
      have hleft := (h.value behind).mono (suffix_of_cons hcs)
      split <;> rename_i heq <;> rw [heq] at hleft
      · rw [isSome_skipFaultMembers?_cons]
        exact Bool.or_eq_true_iff.mpr (.inl hleft)
      · rw [isSome_skipFaultMembers?_cons]
        exact (h.members _ _).imp hleft fun hstopped => Bool.or_eq_true_iff.mpr (.inr hstopped)
  · rfl

end ReadersLeave

/-- **The readers leave the end of the text**, with any fuel. -/
theorem readersLeave (fuel : Nat) : ReadersLeave fuel := by
  induction fuel with
  | zero => constructor <;> intros <;> rfl
  | succ fuel ih =>
      exact
        { value := ih.readValue_succ
          items := ih.readItems_succ
          item := ih.readItem_succ
          members := ih.readMembers_succ
          member := ih.readMember_succ
          memberValue := ih.readMemberValue_succ }

/-! ## Values with parts -/

lemma readValue_of_bracket {fuel : Nat} (h : skipBlanks cs = '[' :: rest) :
    readValue (fuel + 1) cs =
      (.array (readItems fuel true rest).1, (readItems fuel true rest).2) := by
  rw [readValue, h]
  rfl

lemma readValue_of_brace {fuel : Nat} (h : skipBlanks cs = '\x7b' :: rest) :
    readValue (fuel + 1) cs =
      (.object (readMembers fuel true rest).1, (readMembers fuel true rest).2) := by
  rw [readValue, h]
  rfl

/-- **A value with parts begins with a bracket.** -/
lemma readValue_of_depth {fuel : Nat} (h : (readValue (fuel + 1) cs).1.depth ≠ 0) :
    ∃ rest, skipBlanks cs = '[' :: rest ∨ skipBlanks cs = '\x7b' :: rest := by
  rw [readValue] at h
  split at h
  · exact absurd rfl h
  · exact absurd (single_readWord rfl _ _).flat h
  · exact absurd (single_readWord rfl _ _).flat h
  · exact absurd (single_readWord rfl _ _).flat h
  · exact absurd single_readTextToken.flat h
  · exact absurd single_readNumber.flat h
  · next rest heq => exact ⟨rest, .inl heq⟩
  · next rest heq => exact ⟨rest, .inr heq⟩
  · split_ifs at h
    · exact absurd single_readNumber.flat h
    · exact absurd rfl h

/-! ## Faults -/

namespace Draft

mutual

/-- **What no reader minds, none that skips it does.** -/
theorem skipFault?_of_fault? (source : Source) : (d : Draft) → d.fault? source = none →
    d.skipFault? = none
  | .null, _ => rfl
  | .bool _, _ => rfl
  | .number _, _ => rfl
  | .text _, _ => rfl
  | .array items, h => by
      rw [fault?] at h
      split at h
      · cases h
      · exact skipFaultItems?_of_faultItems? _ items h
  | .object members, h => by
      rw [fault?] at h
      split at h
      · cases h
      · exact skipFaultMembers?_of_faultMembers? _ members h
  | .unreadable _, _ => rfl
  | .broken _, h => by cases h

lemma skipFaultItems?_of_faultItems? (source : Source) : (items : List Draft) →
    faultItems? source items = none → skipFaultItems? items = none
  | [], _ => rfl
  | d :: ds, h => by
      rw [faultItems?, Option.or_eq_none_iff] at h
      rw [skipFaultItems?, skipFault?_of_fault? source d h.1,
        skipFaultItems?_of_faultItems? source ds h.2, Option.or_none]

lemma skipFaultMembers?_of_faultMembers? (source : Source) : (members : List (Key × Draft)) →
    faultMembers? source members = none → skipFaultMembers? members = none
  | [], _ => rfl
  | (.text _, d) :: ms, h => by
      rw [faultMembers?, Option.or_eq_none_iff] at h
      rw [skipFaultMembers?, skipFault?_of_fault? source d h.1,
        skipFaultMembers?_of_faultMembers? source ms h.2, Option.or_none]
  | (.unreadable _, _) :: _, h => by cases h

end

/-- A value with parts comes from a draft with parts. -/
lemma depth_ne_zero_of_value {d : Draft} (h : d.value.depth ≠ 0) : d.depth ≠ 0 := by
  cases d with
  | array items => exact Nat.succ_ne_zero _
  | object members => exact Nat.succ_ne_zero _
  | number n =>
      cases n with
      | int n => exact absurd rfl h
      | float x =>
          rw [value, float] at h
          split_ifs at h <;> exact absurd rfl h
  | null | bool | text | unreadable | broken => exact absurd rfl h

/-- Members whose keys can be read. -/
def named (ms : List (String × Draft)) : List (Key × Draft) := ms.map fun m => (.text m.1, m.2)

lemma skipFaultMembers?_named {ms : List (String × Draft)} :
    skipFaultMembers? (named ms) = none ↔ ∀ m ∈ ms, m.2.skipFault? = none := by
  induction ms with
  | nil => simp [named, skipFaultMembers?]
  | cons m ms ih =>
      have hcons : named (m :: ms) = (.text m.1, m.2) :: named ms := rfl
      simp [hcons, skipFaultMembers?, ih]

/-- Members without faults have keys that can be read. -/
lemma eq_named_of_faultMembers? {source : Source} {members : List (Key × Draft)}
    (h : faultMembers? source members = none) : ∃ ms, members = named ms := by
  induction members with
  | nil => exact ⟨[], rfl⟩
  | cons m members ih =>
      obtain ⟨key, d⟩ := m
      cases key with
      | unreadable f => cases h
      | text k =>
          rw [faultMembers?, Option.or_eq_none_iff] at h
          obtain ⟨ms, rfl⟩ := ih h.2
          exact ⟨(k, d) :: ms, rfl⟩

end Draft

/-! ## Whole texts -/

/-- **A text is an object with these members**, in their order, and nothing else.  Each value is
complete, though it need not be one that can be kept. -/
structure Document.Lists (source : String) (ms : List (String × Draft)) : Prop where
  read : Document.read source = ⟨.object (Draft.named ms), false⟩
  complete : ∀ m ∈ ms, m.2.skipFault? = none

namespace Document

variable {source : String} {ms : List (String × Draft)}

/-- A whole text is read with some fuel, and blanks may stand behind it. -/
lemma read_eq (source : String) : ∃ fuel, read source =
    ⟨(readValue (fuel + 1) source.toList).1, (readValue (fuel + 1) source.toList).2.any
      fun rest => !(skipBlanks rest).isEmpty⟩ := by
  refine ⟨4 * source.toList.length + 7, ?_⟩
  unfold read
  dsimp only
  split <;> rename_i heq <;> rw [heq] <;> rfl

/-- A draft with parts begins with its bracket. -/
lemma draft_of_depth (h : (read source).draft.depth ≠ 0) :
    (∃ rest items, skipBlanks source.toList = '[' :: rest ∧ (read source).draft = .array items) ∨
      ∃ rest members, skipBlanks source.toList = '\x7b' :: rest ∧
        (read source).draft = .object members := by
  obtain ⟨fuel, hread⟩ := read_eq source
  rw [hread] at h ⊢
  obtain ⟨rest, hrest | hrest⟩ := readValue_of_depth h
  · exact .inl ⟨rest, _, hrest, by rw [readValue_of_bracket hrest]⟩
  · exact .inr ⟨rest, _, hrest, by rw [readValue_of_brace hrest]⟩

/-- **The text of an object stands between braces**, with nothing but blanks behind these. -/
theorem Lists.braces (h : Lists source ms) :
    ∃ inner back, skipBlanks source.toList = '\x7b' :: (inner ++ '\x7d' :: back) ∧
      skipBlanks back = [] := by
  obtain ⟨fuel, hread⟩ := read_eq source
  rw [h.read, Document.mk.injEq] at hread
  obtain ⟨hdraft, htrailing⟩ := hread
  have hdepth : (readValue (fuel + 1) source.toList).1.depth ≠ 0 := by
    rw [← hdraft]
    exact Nat.succ_ne_zero _
  obtain ⟨rest, hrest | hrest⟩ := readValue_of_depth hdepth
  · rw [readValue_of_bracket hrest] at hdraft
    cases hdraft
  · rw [readValue_of_brace hrest] at hdraft htrailing
    have hfaults : Draft.skipFaultMembers? (readMembers fuel true rest).1 = none := by
      rw [← Draft.object.inj hdraft]
      exact Draft.skipFaultMembers?_named.mpr h.complete
    -- had reading stopped inside, one of the members would be broken there
    have hleft := (readersLeave fuel).members true rest
    rw [hfaults] at hleft
    cases hend : (readMembers fuel true rest).2 with
    | none =>
        rw [hend] at hleft
        cases hleft
    | some back =>
        rw [hend] at hleft htrailing
        obtain ⟨inner, hinner⟩ := hleft
        refine ⟨inner, back, by rw [hrest, ← hinner]; rfl, ?_⟩
        simpa using htrailing.symm

/-- What makes a text the text of a value. -/
lemma parse_eq_ok_iff {v : Json} : parse source = .ok v ↔
    (read source).draft.fault? .start = none ∧ (read source).trailing = false ∧
      (read source).draft.value = v := by
  unfold parse Codec.ofText Codec.decode Codec.json
  dsimp only
  cases hfault : (read source).draft.fault? .start with
  | some f => simp [Except.mapError]
  | none => cases htrailing : (read source).trailing <;> simp [Except.mapError]

/-- A draft with a fault has no value. -/
lemma parse_of_fault {d : Draft} {trailing : Bool} {f : Fault} (h : read source = ⟨d, trailing⟩)
    (hfault : d.fault? .start = some f) : parse source = .error f.message := by
  simp [parse, Codec.ofText, Codec.decode, Codec.json, h, hfault, Except.mapError]

/-- The value of a whole draft without faults. -/
lemma parse_of_read {d : Draft} (h : read source = ⟨d, false⟩) (hfault : d.fault? .start = none) :
    parse source = .ok d.value :=
  parse_eq_ok_iff.mpr (by simp [h, hfault])

/-- **A text whose value is an object is the text of one.** -/
theorem Lists.of_parse {members : Object} (h : parse source = .ok (.object members)) :
    ∃ ms, Lists source ms := by
  obtain ⟨hfault, htrailing, hvalue⟩ := parse_eq_ok_iff.mp h
  have hdepth : (Document.read source).draft.depth ≠ 0 := by
    refine Draft.depth_ne_zero_of_value ?_
    rw [hvalue]
    exact Nat.succ_ne_zero _
  obtain ⟨_, _, -, hdraft⟩ | ⟨_, ds, -, hdraft⟩ := draft_of_depth hdepth
  · rw [hdraft, Draft.value] at hvalue
    cases hvalue
  · rw [hdraft, Draft.fault?] at hfault
    split at hfault
    · cases hfault
    · obtain ⟨ms, rfl⟩ := Draft.eq_named_of_faultMembers? hfault
      exact ⟨ms, by rw [← hdraft, ← htrailing], Draft.skipFaultMembers?_named.mp
        (Draft.skipFaultMembers?_of_faultMembers? _ _ hfault)⟩

/-- A text whose value is an array begins with a bracket. -/
lemma bracket_of_parse {xs : List Json} (h : parse source = .ok (.array xs)) :
    ∃ rest, skipBlanks source.toList = '[' :: rest := by
  obtain ⟨-, -, hvalue⟩ := parse_eq_ok_iff.mp h
  have hdepth : (Document.read source).draft.depth ≠ 0 := by
    refine Draft.depth_ne_zero_of_value ?_
    rw [hvalue]
    exact Nat.succ_ne_zero _
  obtain ⟨rest, _, hrest, -⟩ | ⟨_, _, -, hdraft⟩ := draft_of_depth hdepth
  · exact ⟨rest, hrest⟩
  · rw [hdraft, Draft.value] at hvalue
    cases hvalue

end Document

end Blockflow.Json
