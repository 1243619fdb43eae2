import Blockflow.Proofs.Activity.Logs

/-!
# The time an activity takes

Answers take their time, and patience with a call lasts as long as its limit.  The time of an
activity is all of that together.  A time limit does what it says: an activity that is under one
ends in a value where it would have ended without the limit, if it ends soon enough, and is given up
exactly at the limit otherwise.

* **`Activity.Takes`** — an activity ends in a value after some time, with a log of what happened.
* `Takes.logs` — its log is one of those the activity can have.
* `takes_bind_iff` — the time of a sequence.
* **`takes_timeout_some_iff`**, `Takes.of_timeout_none`, `Logs.of_timeout` — what a time limit does.
-/

namespace Blockflow.Activity

variable {α β : Type} {log : List LogEntry} {ms limit : Nat} {p : Activity α}

/-- **An activity takes so many milliseconds to end in a value**, while these calls are made and
these answers come. -/
inductive Takes : Activity α → List LogEntry → Nat → α → Prop
  | done (a : α) : Takes (.done a) [] 0 a
  | answered {c : Call} {next : Nat → c.Answer → Activity α} {log : List LogEntry} {ms : Nat}
    {a : α} (t : Nat) (answer : c.Answer) (rest : Takes (next t answer) log ms a) :
    Takes (.ask c next) (.asked c :: .heard ⟨c, answer⟩ :: log) (t + ms) a
  | answeredWithin {c : Call} {limit : Nat} {late : Activity α} {next : Nat → c.Answer → Activity α}
    {log : List LogEntry} {ms : Nat} {a : α} {t : Nat} (within : t ≤ limit) (answer : c.Answer)
    (rest : Takes (next t answer) log ms a) :
    Takes (.askWithin c limit late next) (.asked c :: .heard ⟨c, answer⟩ :: log) (t + ms) a
  | tired {c : Call} {limit : Nat} {late : Activity α} {next : Nat → c.Answer → Activity α}
    {log : List LogEntry} {ms : Nat} {a : α} (rest : Takes late log ms a) :
    Takes (.askWithin c limit late next) (.asked c :: log) (limit + ms) a

@[simp] lemma takes_pure_iff {a b : α} :
    (pure a : Activity α).Takes log ms b ↔ log = [] ∧ ms = 0 ∧ a = b := by
  constructor
  · intro h
    cases h
    exact ⟨rfl, rfl, rfl⟩
  · rintro ⟨rfl, rfl, rfl⟩
    exact .done a

/-- What takes its time has a log. -/
lemma Takes.logs {a : α} (h : p.Takes log ms a) : p.Logs log (some a) := by
  induction h with
  | done a => exact .done a
  | answered t answer _ ih => exact .answered t answer ih
  | answeredWithin _ answer _ ih => exact .answeredWithin _ answer ih
  | tired _ ih => exact .tired ih

/-- An answer, and what is done with it. -/
lemma Takes.call_bind {c : Call} {q : c.Answer → Activity β} {b : β} (t : Nat) (answer : c.Answer)
    (rest : (q answer).Takes log ms b) :
    (call c >>= q).Takes (.asked c :: .heard ⟨c, answer⟩ :: log) (t + ms) b :=
  .answered t answer rest

/-- **The time of a sequence** is that of its parts. -/
theorem takes_bind_iff {q : α → Activity β} {b : β} :
    (p >>= q).Takes log ms b ↔
      ∃ front back t t' a, log = front ++ back ∧ ms = t + t' ∧ p.Takes front t a ∧
        (q a).Takes back t' b := by
  constructor
  · intro h
    induction p generalizing log ms with
    | done a => exact ⟨[], log, 0, ms, a, rfl, (Nat.zero_add ms).symm, .done a, h⟩
    | ask c next ih =>
        cases h with
        | answered s answer rest =>
            obtain ⟨front, back, t, t', a, rfl, rfl, hfront, hback⟩ := ih s answer rest
            exact ⟨_ :: _ :: front, back, s + t, t', a, rfl, (Nat.add_assoc s t t').symm,
              .answered s answer hfront, hback⟩
    | askWithin c limit late next ihLate ih =>
        cases h with
        | @answeredWithin _ _ _ _ _ _ _ s within answer rest =>
            obtain ⟨front, back, t, t', a, rfl, rfl, hfront, hback⟩ := ih s answer rest
            exact ⟨_ :: _ :: front, back, s + t, t', a, rfl, (Nat.add_assoc s t t').symm,
              .answeredWithin within answer hfront, hback⟩
        | tired rest =>
            obtain ⟨front, back, t, t', a, rfl, rfl, hfront, hback⟩ := ihLate rest
            exact ⟨_ :: front, back, limit + t, t', a, rfl, (Nat.add_assoc limit t t').symm,
              .tired hfront, hback⟩
  · rintro ⟨front, back, t, t', a, rfl, rfl, hp, hq⟩
    induction hp with
    | done a => rwa [Nat.zero_add]
    | answered s answer _ ih =>
        rw [Nat.add_assoc]
        exact .answered s answer (ih hq)
    | answeredWithin within answer _ ih =>
        rw [Nat.add_assoc]
        exact .answeredWithin within answer (ih hq)
    | tired _ ih =>
        rw [Nat.add_assoc]
        exact .tired (ih hq)

/-- **Under a time limit an activity ends in a value** exactly if it does so without it and takes
no longer. -/
theorem takes_timeout_some_iff {a : α} :
    (p.timeout limit).Takes log ms (some a) ↔ p.Takes log ms a ∧ ms ≤ limit := by
  induction p generalizing log ms limit with
  | done b =>
      constructor
      · intro h
        cases h
        exact ⟨.done _, Nat.zero_le _⟩
      · rintro ⟨h, -⟩
        cases h
        exact .done _
  | ask c next ih =>
      constructor
      · intro h
        cases h with
        | @answeredWithin _ _ _ _ _ _ _ t within answer rest =>
            obtain ⟨hrest, hle⟩ := (ih t answer).mp rest
            exact ⟨.answered t answer hrest, by omega⟩
        | tired rest => cases rest
      · rintro ⟨h, hle⟩
        cases h with
        | answered t answer rest =>
            exact .answeredWithin (by omega) answer ((ih t answer).mpr ⟨rest, by omega⟩)
  | askWithin c inner late next ihLate ih =>
      rw [timeout]
      split_ifs with hinner
      · constructor
        · intro h
          cases h with
          | @answeredWithin _ _ _ _ _ _ _ t within answer rest =>
              obtain ⟨hrest, hle⟩ := (ih t answer).mp rest
              exact ⟨.answeredWithin within answer hrest, by omega⟩
          | tired rest =>
              obtain ⟨hrest, hle⟩ := ihLate.mp rest
              exact ⟨.tired hrest, by omega⟩
        · rintro ⟨h, hle⟩
          cases h with
          | @answeredWithin _ _ _ _ _ _ _ t within answer rest =>
              exact .answeredWithin within answer ((ih t answer).mpr ⟨rest, by omega⟩)
          | tired rest => exact .tired (ihLate.mpr ⟨rest, by omega⟩)
      · -- patience with the call would last longer than the limit
        constructor
        · intro h
          cases h with
          | @answeredWithin _ _ _ _ _ _ _ t within answer rest =>
              obtain ⟨hrest, hle⟩ := (ih t answer).mp rest
              exact ⟨.answeredWithin (by omega) answer hrest, by omega⟩
          | tired rest => cases rest
        · rintro ⟨h, hle⟩
          cases h with
          | @answeredWithin _ _ _ _ _ _ _ t within answer rest =>
              exact .answeredWithin (by omega) answer ((ih t answer).mpr ⟨rest, by omega⟩)
          | tired rest => omega

/-- **An activity that is given up** is given up exactly at the limit. -/
theorem Takes.of_timeout_none (h : (p.timeout limit).Takes log ms none) : ms = limit := by
  induction p generalizing log ms limit with
  | done b => cases h
  | ask c next ih =>
      cases h with
      | @answeredWithin _ _ _ _ _ _ _ t within answer rest =>
          obtain rfl := ih t answer rest
          omega
      | tired rest =>
          cases rest
          rfl
  | askWithin c inner late next ihLate ih =>
      rw [timeout] at h
      split_ifs at h with hinner
      · cases h with
        | @answeredWithin _ _ _ _ _ _ _ t within answer rest =>
            obtain rfl := ih t answer rest
            omega
        | tired rest =>
            obtain rfl := ihLate rest
            omega
      · cases h with
        | @answeredWithin _ _ _ _ _ _ _ t within answer rest =>
            obtain rfl := ih t answer rest
            omega
        | tired rest =>
            cases rest
            rfl

/-- **What happens under a time limit** could happen without it; where the activity is given up, it
is still waiting. -/
theorem Logs.of_timeout {r : Option (Option α)} (h : (p.timeout limit).Logs log r) :
    p.Logs log r.join := by
  induction p generalizing log limit with
  | done b =>
      cases h
      exact .done b
  | ask c next ih =>
      cases h with
      | waitsWithin => exact .waits c next
      | answeredWithin t answer rest => exact .answered t answer (ih t answer rest)
      | tired rest =>
          cases rest
          exact .waits c next
  | askWithin c inner late next ihLate ih =>
      rw [timeout] at h
      split_ifs at h
      · cases h with
        | waitsWithin => exact .waitsWithin c inner late next
        | answeredWithin t answer rest => exact .answeredWithin t answer (ih t answer rest)
        | tired rest => exact .tired (ihLate rest)
      · cases h with
        | waitsWithin => exact .waitsWithin c inner late next
        | answeredWithin t answer rest => exact .answeredWithin t answer (ih t answer rest)
        | tired rest =>
            cases rest
            exact .waitsWithin c inner late next

end Blockflow.Activity
