import Blockflow.Proofs.Activity.Paths

/-!
# The log of an activity

A path holds the answers with which an activity ends.  A log holds everything that has happened by
some moment: the calls that were made, given up ones too, and the answers that came.  It ends in a
value, or it breaks off where an answer is still to come.

* `LogEntry`, **`Activity.Logs`** — the logs of an activity; `Logs.of_bind` — those of a sequence,
  `logs_bind_some_iff` — where it has come to its end.
* `Logs.only` — an activity that makes only calls of some kind logs only such.
* `EachBehind` — what stands in front of every entry of a log.
* `Activity.follow`, **`exists_logs_following`** — if every call is answered, whatever the answers,
  an activity comes to an end.
-/

namespace Blockflow

/-- A call is made, or an answer comes. -/
inductive LogEntry where
  | asked (call : Call)
  | heard (reply : Reply)

/-- The call of an entry. -/
def LogEntry.call : LogEntry → Call
  | .asked call => call
  | .heard reply => reply.call

@[simp] lemma LogEntry.call_asked (call : Call) : (LogEntry.asked call).call = call := rfl

@[simp] lemma LogEntry.call_heard (reply : Reply) : (LogEntry.heard reply).call = reply.call := rfl

namespace Activity

variable {α β : Type} {C : Call → Prop} {log : List LogEntry}

/-! ## Logs -/

/-- **An activity has made these calls and heard these answers**, and ended in a value, if it is
not waiting for an answer. -/
inductive Logs : Activity α → List LogEntry → Option α → Prop
  | done (a : α) : Logs (.done a) [] (some a)
  | waits (c : Call) (next : Nat → c.Answer → Activity α) : Logs (.ask c next) [.asked c] none
  | answered {c : Call} {next : Nat → c.Answer → Activity α} {log : List LogEntry} {r : Option α}
    (ms : Nat) (answer : c.Answer) (rest : Logs (next ms answer) log r) :
    Logs (.ask c next) (.asked c :: .heard ⟨c, answer⟩ :: log) r
  | waitsWithin (c : Call) (limit : Nat) (late : Activity α)
    (next : Nat → c.Answer → Activity α) : Logs (.askWithin c limit late next) [.asked c] none
  | answeredWithin {c : Call} {limit : Nat} {late : Activity α}
    {next : Nat → c.Answer → Activity α} {log : List LogEntry} {r : Option α} (ms : Nat)
    (answer : c.Answer) (rest : Logs (next ms answer) log r) :
    Logs (.askWithin c limit late next) (.asked c :: .heard ⟨c, answer⟩ :: log) r
  | tired {c : Call} {limit : Nat} {late : Activity α} {next : Nat → c.Answer → Activity α}
    {log : List LogEntry} {r : Option α} (rest : Logs late log r) :
    Logs (.askWithin c limit late next) (.asked c :: log) r

@[simp] lemma logs_pure_iff {a : α} {r : Option α} :
    (pure a : Activity α).Logs log r ↔ log = [] ∧ r = some a := by
  constructor
  · intro h
    cases h
    exact ⟨rfl, rfl⟩
  · rintro ⟨rfl, rfl⟩
    exact .done a

/-- A question to a model is not answered yet, or it is. -/
lemma logs_askModel_iff {voice : Voice} {request : ModelRequest}
    {r : Option (Except Error Stream)} :
    (askModel voice request).Logs log r ↔
      (log = [.asked (.ask voice request)] ∧ r = none) ∨
        ∃ stream : Except Error Stream,
          log = [.asked (.ask voice request), .heard ⟨.ask voice request, stream⟩] ∧
            r = some stream := by
  constructor
  · intro h
    cases h with
    | waits => exact .inl ⟨rfl, rfl⟩
    | answered ms answer rest =>
        cases rest
        exact .inr ⟨answer, rfl, rfl⟩
  · rintro (⟨rfl, rfl⟩ | ⟨stream, rfl, rfl⟩)
    · exact .waits _ _
    · exact .answered (c := .ask voice request) 0 stream (.done stream)

/-- **The log of a sequence** breaks off in its first part, or is put together from logs of both. -/
theorem Logs.of_bind {p : Activity α} {q : α → Activity β} {r : Option β}
    (h : (p >>= q).Logs log r) :
    (p.Logs log none ∧ r = none) ∨
      ∃ front back a, log = front ++ back ∧ p.Logs front (some a) ∧ (q a).Logs back r := by
  induction p generalizing log with
  | done a => exact .inr ⟨[], log, a, rfl, .done a, h⟩
  | ask c next ih =>
      cases h with
      | waits => exact .inl ⟨.waits c next, rfl⟩
      | answered ms answer rest =>
          rcases ih ms answer rest with ⟨hwait, hr⟩ | ⟨front, back, a, rfl, hfront, hback⟩
          · exact .inl ⟨.answered ms answer hwait, hr⟩
          · exact .inr ⟨_ :: _ :: front, back, a, rfl, .answered ms answer hfront, hback⟩
  | askWithin c limit late next ihLate ih =>
      cases h with
      | waitsWithin => exact .inl ⟨.waitsWithin c limit late next, rfl⟩
      | answeredWithin ms answer rest =>
          rcases ih ms answer rest with ⟨hwait, hr⟩ | ⟨front, back, a, rfl, hfront, hback⟩
          · exact .inl ⟨.answeredWithin ms answer hwait, hr⟩
          · exact .inr ⟨_ :: _ :: front, back, a, rfl, .answeredWithin ms answer hfront, hback⟩
      | tired rest =>
          rcases ihLate rest with ⟨hwait, hr⟩ | ⟨front, back, a, rfl, hfront, hback⟩
          · exact .inl ⟨.tired hwait, hr⟩
          · exact .inr ⟨_ :: front, back, a, rfl, .tired hfront, hback⟩

lemma Logs.bind {p : Activity α} {q : α → Activity β} {front back : List LogEntry} {a : α}
    {r : Option β} (hp : p.Logs front (some a)) (hq : (q a).Logs back r) :
    (p >>= q).Logs (front ++ back) r := by
  generalize hend : some a = ending at hp
  induction hp with
  | done b =>
      cases hend
      exact hq
  | waits | waitsWithin => cases hend
  | answered ms answer _ ih => exact .answered ms answer (ih hend)
  | answeredWithin ms answer _ ih => exact .answeredWithin ms answer (ih hend)
  | tired _ ih => exact .tired (ih hend)

/-- The log of a sequence that has come to its end. -/
lemma logs_bind_some_iff {p : Activity α} {q : α → Activity β} {b : β} :
    (p >>= q).Logs log (some b) ↔
      ∃ front back a, log = front ++ back ∧ p.Logs front (some a) ∧ (q a).Logs back (some b) := by
  constructor
  · intro h
    rcases h.of_bind with ⟨-, hnone⟩ | hparts
    · cases hnone
    · exact hparts
  · rintro ⟨front, back, a, rfl, hp, hq⟩
    exact hp.bind hq

/-- The log of a call and what follows it, when it has come to its end. -/
lemma logs_call_bind_iff {c : Call} {q : c.Answer → Activity β} {b : β} :
    (call c >>= q).Logs log (some b) ↔
      ∃ answer back, log = .asked c :: .heard ⟨c, answer⟩ :: back ∧
        (q answer).Logs back (some b) := by
  constructor
  · intro h
    cases h with
    | answered ms answer rest => exact ⟨answer, _, rfl, rest⟩
  · rintro ⟨answer, back, rfl, h⟩
    exact .answered 0 answer h

/-- An activity that makes only calls of some kind logs only such. -/
lemma Logs.only {p : Activity α} {r : Option α} (h : p.Logs log r) (hp : p.Only C) :
    ∀ x ∈ log, C x.call := by
  induction h with
  | done => simp
  | waits => simpa using hp.1
  | answered ms answer _ ih => simpa using ⟨hp.1, ih (hp.2 ms answer)⟩
  | waitsWithin => simpa using hp.1
  | answeredWithin ms answer _ ih => simpa using ⟨hp.1, ih (hp.2.2 ms answer)⟩
  | tired _ ih => simpa using ⟨hp.1, ih hp.2.1⟩

/-! ## What stands in front of an entry -/

/-- **Every entry of a log stands behind entries of some kind.** -/
def EachBehind (P : List LogEntry → LogEntry → Prop) (log : List LogEntry) : Prop :=
  ∀ front x back, log = front ++ x :: back → P front x

variable {P : List LogEntry → LogEntry → Prop} {x : LogEntry}

@[simp] lemma eachBehind_nil : EachBehind P [] := by
  intro front x back h
  simp at h

@[simp] lemma eachBehind_cons_iff :
    EachBehind P (x :: log) ↔ P [] x ∧ EachBehind (fun front y => P (x :: front) y) log := by
  constructor
  · intro h
    exact ⟨h [] x log rfl, fun front y back hlog => h (x :: front) y back (by rw [hlog]; rfl)⟩
  · rintro ⟨hx, hlog⟩ front y back heq
    cases front with
    | nil =>
        cases heq
        exact hx
    | cons z front =>
        cases heq
        exact hlog front y back rfl

/-- In front of the entries of a second part stands the first part too. -/
@[simp] lemma eachBehind_append_iff {front : List LogEntry} :
    EachBehind P (front ++ log) ↔
      EachBehind P front ∧ EachBehind (fun entries y => P (front ++ entries) y) log := by
  induction front generalizing P with
  | nil => simp
  | cons x front ih => simp [ih, and_assoc]

/-! ## Coming to an end -/

/-- The log of an activity to which every call is answered, within some time and with some answer
that may depend on all that happened before, and the value that it comes to. -/
def follow (answer : List LogEntry → (c : Call) → Nat × c.Answer) :
    Activity α → List LogEntry → List LogEntry × α
  | .done a, _ => ([], a)
  | .ask c next, before =>
    let reply := answer (before ++ [.asked c]) c
    let rest := follow answer (next reply.1 reply.2) (before ++ [.asked c, .heard ⟨c, reply.2⟩])
    (.asked c :: .heard ⟨c, reply.2⟩ :: rest.1, rest.2)
  | .askWithin c limit late next, before =>
    let reply := answer (before ++ [.asked c]) c
    if reply.1 ≤ limit then
      let rest := follow answer (next reply.1 reply.2) (before ++ [.asked c, .heard ⟨c, reply.2⟩])
      (.asked c :: .heard ⟨c, reply.2⟩ :: rest.1, rest.2)
    else
      let rest := follow answer late (before ++ [.asked c])
      (.asked c :: rest.1, rest.2)

variable {answer : List LogEntry → (c : Call) → Nat × c.Answer}

lemma logs_follow (p : Activity α) : ∀ before,
    p.Logs (p.follow answer before).1 (some (p.follow answer before).2) := by
  induction p with
  | done a => exact fun _ => .done a
  | ask c next ih => exact fun before => .answered _ _ (ih _ _ _)
  | askWithin c limit late next ihLate ih =>
      intro before
      rw [follow]
      dsimp only
      split_ifs
      · exact .answeredWithin _ _ (ih _ _ _)
      · exact .tired (ihLate _)

/-- What is heard is what is answered. -/
lemma heard_follow (p : Activity α) : ∀ before,
    EachBehind (fun front x => ∀ reply, x = .heard reply →
      reply.answer = (answer (before ++ front) reply.call).2) (p.follow answer before).1 := by
  induction p with
  | done a => exact fun _ => eachBehind_nil
  | ask c next ih =>
      intro before
      have hrest := ih (answer (before ++ [.asked c]) c).1 (answer (before ++ [.asked c]) c).2
        (before ++ [.asked c, .heard ⟨c, (answer (before ++ [.asked c]) c).2⟩])
      simpa [follow] using hrest
  | askWithin c limit late next ihLate ih =>
      intro before
      have hrest := ih (answer (before ++ [.asked c]) c).1 (answer (before ++ [.asked c]) c).2
        (before ++ [.asked c, .heard ⟨c, (answer (before ++ [.asked c]) c).2⟩])
      have hlate := ihLate (before ++ [.asked c])
      rw [follow]
      dsimp only
      split_ifs
      · simpa using hrest
      · simpa using hlate

/-- **If every call is answered, however it is answered, an activity comes to an end**: there is a
log that ends in a value and holds these answers. -/
theorem exists_logs_following (p : Activity α)
    (answer : List LogEntry → (c : Call) → Nat × c.Answer) :
    ∃ log a, p.Logs log (some a) ∧ ∀ front reply back, log = front ++ .heard reply :: back →
      reply.answer = (answer front reply.call).2 :=
  ⟨_, _, logs_follow p [], fun front reply back h => heard_follow p [] front _ back h reply rfl⟩

end Activity

end Blockflow
