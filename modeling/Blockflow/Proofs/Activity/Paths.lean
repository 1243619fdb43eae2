import Blockflow.Proofs.Activity.Alike

/-!
# The paths of an activity

What an activity comes to depends on what it hears.  A path is a list of answers, in the order in
which they come, with which the activity ends; where its patience is limited it may also go on
without an answer.

* `Reply` — an answer of the outside to a call.
* **`Activity.Yields`** — an activity ends in a value once it has heard these answers, with the
  paths of a sequence (`yields_bind_iff`) and of what keeps within a time limit
  (`Yields.of_timeout`).
* **`Activity.Only`** — an activity makes only calls of some kind, so that every answer on its paths
  is to such a call (`Yields.only`).
* **`Activity.Ensures`** — it comes only to values of some kind as well, which what follows may rely
  on (`Ensures.bind`).
-/

namespace Blockflow

/-- An answer of the outside to a call. -/
structure Reply where
  call : Call
  answer : call.Answer

namespace Activity

variable {α β : Type} {C : Call → Prop}

/-! ## Paths -/

/-- **An activity ends in a value once it has heard these answers.** -/
inductive Yields : Activity α → List Reply → α → Prop
  | done (a : α) : Yields (.done a) [] a
  | answered {c : Call} {next : Nat → c.Answer → Activity α} {replies : List Reply} {a : α}
    (ms : Nat) (answer : c.Answer) (rest : Yields (next ms answer) replies a) :
    Yields (.ask c next) (⟨c, answer⟩ :: replies) a
  | answeredWithin {c : Call} {limit : Nat} {late : Activity α}
    {next : Nat → c.Answer → Activity α} {replies : List Reply} {a : α} (ms : Nat)
    (answer : c.Answer) (rest : Yields (next ms answer) replies a) :
    Yields (.askWithin c limit late next) (⟨c, answer⟩ :: replies) a
  | tired {c : Call} {limit : Nat} {late : Activity α} {next : Nat → c.Answer → Activity α}
    {replies : List Reply} {a : α} (rest : Yields late replies a) :
    Yields (.askWithin c limit late next) replies a

@[simp] lemma yields_pure_iff {a b : α} {replies : List Reply} :
    (pure a : Activity α).Yields replies b ↔ replies = [] ∧ a = b := by
  constructor
  · intro h
    cases h
    exact ⟨rfl, rfl⟩
  · rintro ⟨rfl, rfl⟩
    exact .done a

/-- What ends in an error does not succeed. -/
lemma not_yields_ok {ε : Type} {e : ε} {replies : List Reply} {a : α} :
    ¬ (pure (.error e) : Activity (Except ε α)).Yields replies (.ok a) := by
  rw [yields_pure_iff]
  rintro ⟨-, h⟩
  cases h

@[simp] lemma yields_call_iff {c : Call} {answer : c.Answer} {replies : List Reply} :
    (call c).Yields replies answer ↔ replies = [⟨c, answer⟩] := by
  constructor
  · intro h
    cases h with
    | answered ms answer rest =>
        cases rest
        rfl
  · rintro rfl
    exact .answered 0 answer (.done answer)

lemma yields_askModel_iff {voice : Voice} {request : ModelRequest}
    {stream : Except Error Stream} {replies : List Reply} :
    (askModel voice request).Yields replies stream ↔
      replies = [⟨.ask voice request, stream⟩] :=
  yields_call_iff (c := .ask voice request)

lemma Yields.bind {p : Activity α} {q : α → Activity β} {front back : List Reply} {a : α} {b : β}
    (hp : p.Yields front a) (hq : (q a).Yields back b) : (p >>= q).Yields (front ++ back) b := by
  induction hp with
  | done a => exact hq
  | answered ms answer _ ih => exact .answered ms answer (ih hq)
  | answeredWithin ms answer _ ih => exact .answeredWithin ms answer (ih hq)
  | tired _ ih => exact .tired (ih hq)

/-- The path of a sequence is put together from paths of its parts. -/
lemma Yields.of_bind {p : Activity α} {q : α → Activity β} {replies : List Reply} {b : β}
    (h : (p >>= q).Yields replies b) :
    ∃ front back a, replies = front ++ back ∧ p.Yields front a ∧ (q a).Yields back b := by
  induction p generalizing replies with
  | done a => exact ⟨[], replies, a, rfl, .done a, h⟩
  | ask c next ih =>
      cases h with
      | answered ms answer rest =>
          obtain ⟨front, back, a, rfl, hfront, hback⟩ := ih ms answer rest
          exact ⟨⟨c, answer⟩ :: front, back, a, rfl, .answered ms answer hfront, hback⟩
  | askWithin c limit late next ihLate ih =>
      cases h with
      | answeredWithin ms answer rest =>
          obtain ⟨front, back, a, rfl, hfront, hback⟩ := ih ms answer rest
          exact ⟨⟨c, answer⟩ :: front, back, a, rfl, .answeredWithin ms answer hfront, hback⟩
      | tired rest =>
          obtain ⟨front, back, a, rfl, hfront, hback⟩ := ihLate rest
          exact ⟨front, back, a, rfl, .tired hfront, hback⟩

/-- **The paths of a sequence.** -/
theorem yields_bind_iff {p : Activity α} {q : α → Activity β} {replies : List Reply} {b : β} :
    (p >>= q).Yields replies b ↔
      ∃ front back a, replies = front ++ back ∧ p.Yields front a ∧ (q a).Yields back b := by
  refine ⟨Yields.of_bind, ?_⟩
  rintro ⟨front, back, a, rfl, hp, hq⟩
  exact hp.bind hq

/-- **What keeps within a time limit** could have gone the same way without it. -/
theorem Yields.of_timeout {p : Activity α} {ms : Nat} {replies : List Reply} {a : α}
    (h : (p.timeout ms).Yields replies (some a)) : p.Yields replies a := by
  induction p generalizing ms replies with
  | done b =>
      cases h
      exact .done _
  | ask c next ih =>
      cases h with
      | answeredWithin t answer rest => exact .answered t answer (ih t answer rest)
      | tired rest => cases rest
  | askWithin c limit late next ihLate ih =>
      rw [timeout] at h
      split_ifs at h
      · cases h with
        | answeredWithin t answer rest => exact .answeredWithin t answer (ih t answer rest)
        | tired rest => exact .tired (ihLate rest)
      · cases h with
        | answeredWithin t answer rest => exact .answeredWithin t answer (ih t answer rest)
        | tired rest => cases rest

/-! ## Calls of some kind -/

/-- **An activity makes only such calls.** -/
def Only (C : Call → Prop) : Activity α → Prop
  | .done _ => True
  | .ask c next => C c ∧ ∀ ms answer, Only C (next ms answer)
  | .askWithin c _ late next => C c ∧ Only C late ∧ ∀ ms answer, Only C (next ms answer)

lemma Only.mono {D : Call → Prop} {p : Activity α} (hp : p.Only C) (h : ∀ c, C c → D c) :
    p.Only D := by
  induction p with
  | done a => exact trivial
  | ask c next ih => exact ⟨h c hp.1, fun ms answer => ih ms answer (hp.2 ms answer)⟩
  | askWithin c limit late next ihLate ih =>
      exact ⟨h c hp.1, ihLate hp.2.1, fun ms answer => ih ms answer (hp.2.2 ms answer)⟩

lemma Only.bind {p : Activity α} {q : α → Activity β} (hp : p.Only C) (hq : ∀ a, (q a).Only C) :
    (p.bind q).Only C := by
  induction p with
  | done a => exact hq a
  | ask c next ih => exact ⟨hp.1, fun ms answer => ih ms answer (hp.2 ms answer)⟩
  | askWithin c limit late next ihLate ih =>
      exact ⟨hp.1, ihLate hp.2.1, fun ms answer => ih ms answer (hp.2.2 ms answer)⟩

lemma Only.timeout {p : Activity α} (hp : p.Only C) : ∀ ms, (p.timeout ms).Only C := by
  induction p with
  | done a => exact fun _ => trivial
  | ask c next ih =>
      exact fun ms => ⟨hp.1, trivial, fun t answer => ih t answer (hp.2 t answer) _⟩
  | askWithin c limit late next ihLate ih =>
      intro ms
      rw [Activity.timeout]
      split_ifs
      · exact ⟨hp.1, ihLate hp.2.1 _, fun t answer => ih t answer (hp.2.2 t answer) _⟩
      · exact ⟨hp.1, trivial, fun t answer => ih t answer (hp.2.2 t answer) _⟩

lemma congruence_only (C : Call → Prop) : Congruence fun p _ => p.Only C where
  done _ := trivial
  bind hp hq := hp.bind hq
  timeout ms hp := hp.timeout ms

/-- Every answer on a path is to such a call. -/
lemma Yields.only {p : Activity α} {replies : List Reply} {a : α} (h : p.Yields replies a)
    (hp : p.Only C) : ∀ reply ∈ replies, C reply.call := by
  induction h with
  | done => simp
  | answered ms answer _ ih => simpa using ⟨hp.1, ih (hp.2 ms answer)⟩
  | answeredWithin ms answer _ ih => simpa using ⟨hp.1, ih (hp.2.2 ms answer)⟩
  | tired _ ih => exact ih hp.2.1

/-! ## Values of some kind -/

/-- **An activity makes only such calls and comes only to such values.** -/
def Ensures (C : Call → Prop) (P : α → Prop) : Activity α → Prop
  | .done a => P a
  | .ask c next => C c ∧ ∀ ms answer, Ensures C P (next ms answer)
  | .askWithin c _ late next =>
    C c ∧ Ensures C P late ∧ ∀ ms answer, Ensures C P (next ms answer)

variable {P : α → Prop}

lemma Only.ensures {p : Activity α} (hp : p.Only C) : p.Ensures C fun _ => True := by
  induction p with
  | done a => exact trivial
  | ask c next ih => exact ⟨hp.1, fun ms answer => ih ms answer (hp.2 ms answer)⟩
  | askWithin c limit late next ihLate ih =>
      exact ⟨hp.1, ihLate hp.2.1, fun ms answer => ih ms answer (hp.2.2 ms answer)⟩

lemma Ensures.only {p : Activity α} (hp : p.Ensures C P) : p.Only C := by
  induction p with
  | done a => exact trivial
  | ask c next ih => exact ⟨hp.1, fun ms answer => ih ms answer (hp.2 ms answer)⟩
  | askWithin c limit late next ihLate ih =>
      exact ⟨hp.1, ihLate hp.2.1, fun ms answer => ih ms answer (hp.2.2 ms answer)⟩

lemma Ensures.mono {p : Activity α} {Q : α → Prop} (hp : p.Ensures C P) (h : ∀ a, P a → Q a) :
    p.Ensures C Q := by
  induction p with
  | done a => exact h a hp
  | ask c next ih => exact ⟨hp.1, fun ms answer => ih ms answer (hp.2 ms answer)⟩
  | askWithin c limit late next ihLate ih =>
      exact ⟨hp.1, ihLate hp.2.1, fun ms answer => ih ms answer (hp.2.2 ms answer)⟩

lemma Ensures.bind {p : Activity α} {q : α → Activity β} {Q : β → Prop} (hp : p.Ensures C P)
    (hq : ∀ a, P a → (q a).Ensures C Q) : (p.bind q).Ensures C Q := by
  induction p with
  | done a => exact hq a hp
  | ask c next ih => exact ⟨hp.1, fun ms answer => ih ms answer (hp.2 ms answer)⟩
  | askWithin c limit late next ihLate ih =>
      exact ⟨hp.1, ihLate hp.2.1, fun ms answer => ih ms answer (hp.2.2 ms answer)⟩

end Activity

end Blockflow
