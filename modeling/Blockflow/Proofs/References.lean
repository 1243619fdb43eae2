import Blockflow.Proofs.Table
import Blockflow.Settings.Environment
import Mathlib.Data.List.Basic
import Mathlib.Data.List.TakeWhile

/-!
# References that are replaced

A reference begins with a dollar sign and a brace, and the name in it reaches to the next closing
brace.  So a reference that is closed is read to its end before anything behind it is looked at, and
what stands on its two sides is replaced as if it stood alone.  Only a reference that nothing closes
reaches to the end of the text, and that one does not stay as it is: it is taken for closed there.

* `EndsOpen` — texts in which a reference is not closed.
* `expandChars_reference`, `expandChars_open` — a reference at the front of a text.
* `text_induction` — a text from its front, with its references one by one.
* `expandChars_append` — what stands in front of a reference.
* `expandChars_of_unset` — a text where no variable is set.
* **`references_replaced`** — a text with its references replaced.
-/

namespace Blockflow.Environment

variable {env : Environment} {cs front name back : List Char} {c : Char}

/-! ## References at the front of a text -/

/-- **A reference is not closed**: behind its beginning there is no closing brace. -/
def EndsOpen (cs : List Char) : Prop :=
  ∃ front name, cs = front ++ '$' :: '\x7b' :: name ∧ '\x7d' ∉ name

/-- Whether a reference begins at the front of a text. -/
def Begins (cs : List Char) : Prop := ∃ rest, cs = '$' :: '\x7b' :: rest

lemma EndsOpen.append (h : EndsOpen cs) (front : List Char) : EndsOpen (front ++ cs) := by
  obtain ⟨before, name, rfl, hname⟩ := h
  exact ⟨front ++ before, name, (List.append_assoc ..).symm, hname⟩

/-- A name reaches to the closing brace. -/
lemma takeWhile_name (hname : '\x7d' ∉ name) (back : List Char) :
    (name ++ '\x7d' :: back).takeWhile (· ≠ '\x7d') = name ∧
      (name ++ '\x7d' :: back).dropWhile (· ≠ '\x7d') = '\x7d' :: back := by
  have hall : ∀ c ∈ name, decide (c ≠ '\x7d') = true :=
    fun c hc => decide_eq_true fun heq => hname (heq ▸ hc)
  rw [List.takeWhile_append_of_pos hall, List.dropWhile_append_of_pos hall]
  simp

/-- **A closed reference** is replaced, whatever follows it. -/
lemma expandChars_reference (env : Environment) (hname : '\x7d' ∉ name) (back : List Char) :
    env.expandChars (reference name ++ back) = env.resolve name ++ env.expandChars back := by
  obtain ⟨htake, hdrop⟩ := takeWhile_name hname back
  rw [reference, List.cons_append, List.cons_append, List.append_assoc, List.singleton_append,
    expandChars, htake, hdrop, List.drop_one, List.tail_cons]

/-- A reference that is not closed reaches to the end of the text. -/
lemma expandChars_open (env : Environment) (hname : '\x7d' ∉ name) :
    env.expandChars ('$' :: '\x7b' :: name) = env.resolve name := by
  have hall : ∀ c ∈ name, decide (c ≠ '\x7d') = true :=
    fun c hc => decide_eq_true fun heq => hname (heq ▸ hc)
  rw [expandChars, List.takeWhile_eq_self_iff.mpr hall, List.dropWhile_eq_nil_iff.mpr hall,
    List.drop_nil, expandChars, List.append_nil]

/-- A character with which no reference begins stays. -/
lemma expandChars_cons (h : ¬ Begins (c :: cs)) :
    env.expandChars (c :: cs) = c :: env.expandChars cs := by
  rw [expandChars.eq_3]
  rintro rest rfl rfl
  exact h ⟨rest, rfl⟩

/-- A reference at the front of a text is closed, or the text is one that is not. -/
lemma Begins.cases (h : Begins cs) :
    (∃ name back, '\x7d' ∉ name ∧ cs = reference name ++ back) ∨
      ∃ name, '\x7d' ∉ name ∧ cs = '$' :: '\x7b' :: name := by
  obtain ⟨rest, rfl⟩ := h
  by_cases hclosed : '\x7d' ∈ rest
  · obtain ⟨name, back, rfl, hname⟩ := List.eq_append_cons_of_mem hclosed
    exact .inl ⟨name, back, hname, by simp [reference]⟩
  · exact .inr ⟨rest, hclosed, rfl⟩

/-- **A text from its front**: it is empty, or begins with a reference that is closed, with one that
is not, or with any other character. -/
@[elab_as_elim]
lemma text_induction {motive : List Char → Prop} (empty : motive [])
    (closed : ∀ name back, '\x7d' ∉ name → motive back → motive (reference name ++ back))
    (opened : ∀ name, '\x7d' ∉ name → motive ('$' :: '\x7b' :: name))
    (plain : ∀ c cs, ¬ Begins (c :: cs) → motive cs → motive (c :: cs)) (cs : List Char) :
    motive cs := by
  induction hlength : cs.length using Nat.strong_induction_on generalizing cs with
  | _ n ih =>
      by_cases hbegins : Begins cs
      · rcases hbegins.cases with ⟨name, back, hname, rfl⟩ | ⟨name, hname, rfl⟩
        · have hshorter : back.length < n := by
            rw [← hlength]
            simp [reference]
            omega
          exact closed name back hname (ih _ hshorter back rfl)
        · exact opened name hname
      · cases cs with
        | nil => exact empty
        | cons c cs => exact plain c cs hbegins (ih cs.length (by simp [← hlength]) cs rfl)

/-! ## Texts around a reference -/

/-- A closing brace closes whatever began in front of it. -/
lemma endsOpen_append_cons_iff (front : List Char) :
    EndsOpen (front ++ '\x7d' :: back) ↔ EndsOpen back := by
  refine ⟨?_, fun h => List.append_cons front .. ▸ h.append (front ++ ['\x7d'])⟩
  rintro ⟨before, name, heq, hname⟩
  rcases List.append_eq_append_iff.mp heq with ⟨rest, rfl, hrest⟩ | ⟨rest, rfl, hrest⟩
  · cases rest with
    | nil => exact absurd (List.cons.inj hrest).1 (by decide)
    | cons d rest => exact ⟨rest, name, (List.cons.inj hrest).2, hname⟩
  · -- the closing brace would stand in the name
    have hmem : '\x7d' ∈ '$' :: '\x7b' :: name := hrest ▸ by simp
    simp only [List.mem_cons, Char.reduceEq, false_or] at hmem
    exact absurd hmem hname

/-- A character with which no reference begins opens none. -/
lemma endsOpen_cons_iff (h : ¬ Begins (c :: cs)) : EndsOpen (c :: cs) ↔ EndsOpen cs := by
  refine ⟨?_, fun hopen => hopen.append [c]⟩
  rintro ⟨before, name, heq, hname⟩
  cases before with
  | nil => exact absurd ⟨name, heq⟩ h
  | cons d before => exact ⟨before, name, (List.cons.inj heq).2, hname⟩

/-- **What stands in front of a reference** is replaced as if nothing followed, unless a reference
in it is not closed. -/
theorem expandChars_append (env : Environment) (hback : Begins back) (front : List Char)
    (hfront : ¬ EndsOpen front) :
    env.expandChars (front ++ back) = env.expandChars front ++ env.expandChars back := by
  induction front using text_induction with
  | empty => rw [expandChars, List.nil_append, List.nil_append]
  | closed name rest hname ih =>
      have hrest : ¬ EndsOpen rest := fun hopen => hfront (hopen.append _)
      rw [List.append_assoc, expandChars_reference env hname, expandChars_reference env hname,
        ih hrest, List.append_assoc]
  | opened name hname => exact absurd ⟨[], name, rfl, hname⟩ hfront
  | plain c rest hbegins ih =>
      have hrest : ¬ EndsOpen rest := fun hopen => hfront (hopen.append [c])
      -- a dollar sign at the end of the text and the one behind it begin no reference
      have hnone : ¬ Begins (c :: (rest ++ back)) := by
        rintro ⟨name, heq⟩
        obtain ⟨rfl, hbehind⟩ := List.cons.inj heq
        cases rest with
        | nil =>
            obtain ⟨name', rfl⟩ := hback
            exact absurd (List.cons.inj hbehind).1 (by decide)
        | cons d rest => exact hbegins ⟨rest, by rw [(List.cons.inj hbehind).1]⟩
      rw [List.cons_append, expandChars_cons hnone, expandChars_cons hbegins, ih hrest,
        List.cons_append]

/-- A text in which no reference begins stays. -/
lemma expandChars_of_none (env : Environment)
    (h : ∀ front back, cs ≠ front ++ '$' :: '\x7b' :: back) : env.expandChars cs = cs := by
  induction cs with
  | nil => rw [expandChars]
  | cons c cs ih =>
      have hbegins : ¬ Begins (c :: cs) := by
        rintro ⟨rest, heq⟩
        exact h [] rest heq
      rw [expandChars_cons hbegins, ih]
      exact fun front back heq => h (c :: front) back (by rw [heq, List.cons_append])

/-- **Where no variable is set**, a text stays, but for a brace that closes its last reference. -/
theorem expandChars_of_unset (hunset : ∀ name, env.resolve name = reference name)
    (cs : List Char) :
    (¬ EndsOpen cs → env.expandChars cs = cs) ∧
      (EndsOpen cs → env.expandChars cs = cs ++ ['\x7d']) := by
  induction cs using text_induction with
  | empty =>
      rw [expandChars]
      refine ⟨fun _ => rfl, ?_⟩
      rintro ⟨front, name, heq, -⟩
      simp at heq
  | closed name rest hname ih =>
      obtain ⟨hclosed, hopen⟩ := ih
      have hiff : EndsOpen (reference name ++ rest) ↔ EndsOpen rest := by
        rw [reference, List.cons_append, List.cons_append, List.append_assoc,
          List.singleton_append]
        exact endsOpen_append_cons_iff ('$' :: '\x7b' :: name)
      rw [hiff, expandChars_reference env hname, hunset, List.append_assoc]
      exact ⟨fun h => by rw [hclosed h], fun h => by rw [hopen h]⟩
  | opened name hname =>
      rw [expandChars_open env hname, hunset]
      exact ⟨fun h => absurd ⟨[], name, rfl, hname⟩ h, fun _ => rfl⟩
  | plain c cs hbegins ih =>
      obtain ⟨hclosed, hopen⟩ := ih
      rw [endsOpen_cons_iff hbegins, expandChars_cons hbegins, List.cons_append]
      exact ⟨fun h => by rw [hclosed h], fun h => by rw [hopen h]⟩

/-! ## Texts -/

lemma toList_expand (env : Environment) (s : String) :
    (env.expand s).toList = env.expandChars s.toList := String.toList_ofList

/-- A reference as a text, and what stands for it. -/
lemma toList_resolve (env : Environment) (name : String) :
    ((Table.get? env name).getD ("$\x7b" ++ name ++ "\x7d")).toList =
      env.resolve name.toList := by
  rw [resolve, String.ofList_toList]
  cases Table.get? env name with
  | none => simp [reference]
  | some value => rfl

/-- **A text with its references replaced.**  For every environment:

* A reference whose name reaches to the next closing brace becomes the value of its variable, which
  is not looked at again, or stays if the variable is not set; and the texts on both sides are
  replaced as if each stood alone, if a reference in the first one is not still to be closed.
* A text in which no reference begins stays as it is.
* A reference that is not closed, at the end of a text, is taken for closed there: it becomes the
  value of its variable, or, if that is not set, gets the brace that it has not.
* So where no variable is set, a text stays exactly if its references are closed, and gets a closing
  brace otherwise. -/
theorem references_replaced (env : Environment) :
    (∀ front name back : String, ¬ EndsOpen front.toList → '\x7d' ∉ name.toList →
      env.expand (front ++ ("$\x7b" ++ name ++ "\x7d") ++ back) =
        env.expand front ++ (Table.get? env name).getD ("$\x7b" ++ name ++ "\x7d") ++
          env.expand back) ∧
    (∀ text : String, (∀ front back : String, text ≠ front ++ "$\x7b" ++ back) →
      env.expand text = text) ∧
    (∀ front name : String, ¬ EndsOpen front.toList → '\x7d' ∉ name.toList →
      env.expand (front ++ ("$\x7b" ++ name)) =
        env.expand front ++ (Table.get? env name).getD ("$\x7b" ++ name ++ "\x7d")) ∧
    ((∀ name, Table.get? env name = none) → ∀ text : String,
      (¬ EndsOpen text.toList → env.expand text = text) ∧
        (EndsOpen text.toList → env.expand text = text ++ "\x7d")) := by
  refine ⟨fun front name back hfront hname => ?_, fun text hnone => ?_,
    fun front name hfront hname => ?_, fun hunset text => ?_⟩
  · refine String.toList_injective ?_
    have htext : (front ++ ("$\x7b" ++ name ++ "\x7d") ++ back).toList =
        front.toList ++ (reference name.toList ++ back.toList) := by simp [reference]
    have hbegins : Begins (reference name.toList ++ back.toList) := ⟨_, rfl⟩
    rw [toList_expand, htext, expandChars_append env hbegins _ hfront,
      expandChars_reference env hname, String.toList_append, String.toList_append, toList_expand,
      toList_expand, toList_resolve, List.append_assoc]
  · refine String.toList_injective ?_
    rw [toList_expand, expandChars_of_none]
    intro front back heq
    refine hnone (String.ofList front) (String.ofList back) (String.toList_injective ?_)
    rw [heq]
    simp
  · refine String.toList_injective ?_
    have htext : (front ++ ("$\x7b" ++ name)).toList =
        front.toList ++ '$' :: '\x7b' :: name.toList := by simp
    rw [toList_expand, htext, expandChars_append env ⟨_, rfl⟩ _ hfront, expandChars_open env hname,
      String.toList_append, toList_expand, toList_resolve]
  · have hresolve : ∀ name, env.resolve name = reference name := fun name => by
      rw [resolve, hunset]
    obtain ⟨hclosed, hopen⟩ := expandChars_of_unset hresolve text.toList
    refine ⟨fun h => String.toList_injective ?_, fun h => String.toList_injective ?_⟩
    · rw [toList_expand, hclosed h]
    · rw [toList_expand, hopen h, String.toList_append]
      rfl

/-- A dollar sign, a reference to a variable whose value looks like one, another dollar sign, and a
reference that is not closed to a variable that is not set. -/
theorem references_replaced_unclosed :
    let env : Environment := [("A", "$\x7bB\x7d"), ("B", "x")]
    ¬ EndsOpen "$".toList ∧ '\x7d' ∉ "A".toList ∧ '\x7d' ∉ "C".toList ∧
      (∀ front back : String, "$" ≠ front ++ "$\x7b" ++ back) ∧
      env.expand ("$" ++ ("$\x7b" ++ "A" ++ "\x7d") ++ ("$" ++ ("$\x7b" ++ "C"))) =
        "$" ++ "$\x7bB\x7d" ++ ("$" ++ "$\x7bC\x7d") ∧
      (∀ name, Table.get? ([] : Environment) name = none) ∧ EndsOpen "$\x7bC".toList ∧
      expand [] "$\x7bC" = "$\x7bC" ++ "\x7d" := by
  intro env
  obtain ⟨hclosed, hnone, hopen, -⟩ := references_replaced env
  have hshort : ¬ EndsOpen "$".toList := by
    rintro ⟨front, name, heq, -⟩
    have hlength := congrArg List.length heq
    simp at hlength
    omega
  have hdollar : ∀ front back : String, "$" ≠ front ++ "$\x7b" ++ back := by
    intro front back heq
    have hmem : '\x7b' ∈ (front ++ "$\x7b" ++ back).toList := by simp
    rw [← heq] at hmem
    exact absurd hmem (by decide)
  have hunset : ∀ name, Table.get? ([] : Environment) name = none := fun _ => rfl
  have hends : EndsOpen "$\x7bC".toList := ⟨[], ['C'], rfl, by decide⟩
  refine ⟨hshort, by decide, by decide, hdollar, ?_, hunset, hends,
    ((references_replaced []).2.2.2 hunset _).2 hends⟩
  rw [hclosed _ _ _ hshort (by decide), hopen _ _ hshort (by decide), hnone _ hdollar]
  rfl

/-- So a text does not always stay as it is where no variable is set. -/
theorem references_closed_unasked :
    expand [] "key = $\x7bNAME" ≠ "key = $\x7bNAME" := by
  have hends : EndsOpen "key = $\x7bNAME".toList :=
    ⟨"key = ".toList, "NAME".toList, by decide, by decide⟩
  intro heq
  have hchars := congrArg String.toList heq
  rw [toList_expand, (expandChars_of_unset (fun _ => rfl) _).2 hends] at hchars
  simp at hchars

end Blockflow.Environment
