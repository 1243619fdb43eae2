import Blockflow.Provider.Pool
import Mathlib.Data.List.Infix

/-!
# Health by the attempts so far

What is kept of a pooled model is two counters, a flag and a time, and each attempt changes some of
them.  They tell less than the attempts themselves, but nothing of them is needed: whether a model
is healthy, and how long it is left alone, can be read off its own attempts, in the order in which
they were reported.

* `Attempt`, `PoolEvent`, `PoolEvent.log` — the attempts with one model among all that happens.
* `Ailing` — three failures running, with no two successes running after the last of them.
* `Health.Recalls` — the record of a model is what its attempts come to; **`Health.Recalls.note`**:
  one more attempt keeps it so.
* `Rests` — an ailing model that is left alone; **`PoolHealth.mem_attemptOrder_iff`** — the others
  are tried.
* **`PoolHealth.health_by_attempts`** — a pool after anything that may happen to it.
-/

namespace Blockflow

/-! ## Attempts -/

/-- An attempt with a model: when it was reported, and whether the model answered. -/
structure Attempt where
  time : Nat
  succeeded : Bool
  deriving DecidableEq, Repr

/-- What may happen to a pool: it is asked which models to try, or an attempt is reported. -/
inductive PoolEvent where
  | asked (now : Nat)
  | reported (index : Nat) (attempt : Attempt)

/-- The attempts with one model. -/
def PoolEvent.log (i : Nat) (events : List PoolEvent) : List Attempt :=
  events.filterMap fun
    | .asked _ => none
    | .reported j a => if j = i then some a else none

/-- What the attempts came to. -/
def Attempt.results (log : List Attempt) : List Bool := log.map Attempt.succeeded

/-- When the last of the attempts that failed was reported. -/
def Attempt.lastFailure? (log : List Attempt) : Option Nat :=
  ((log.filter fun a => !a.succeeded).getLast?).map Attempt.time

open Attempt (results lastFailure?)

/-- **Three failures running, with no two successes running after the last three.** -/
def Ailing (results : List Bool) : Prop :=
  ∃ before after, results = before ++ [false, false, false] ++ after ∧
    (∀ before' after', results = before' ++ [false, false, false] ++ after' →
      before'.length ≤ before.length) ∧
    ¬ [true, true] <:+: after

/-- A model that is left alone: it is ailing, and its last failure is not long ago. -/
def Rests (log : List Attempt) (now : Nat) : Prop :=
  Ailing (results log) ∧ ∃ t, lastFailure? log = some t ∧ now - t < Health.cooldown

/-! ## Ailing models -/

variable {l : List Bool} {log : List Attempt} {a : Attempt} {now i : Nat}

/-- Any three failures will do: if no two successes follow them, none follow the last three. -/
lemma ailing_iff :
    Ailing l ↔ ∃ before after, l = before ++ [false, false, false] ++ after ∧
      ¬ [true, true] <:+: after := by
  refine ⟨fun ⟨before, after, heq, _, hno⟩ => ⟨before, after, heq, hno⟩, ?_⟩
  rintro ⟨before, after, heq, hno⟩
  induction hmeasure : l.length - before.length using Nat.strong_induction_on
    generalizing before after with
  | _ k ih =>
      by_cases hlast : ∀ before' after', l = before' ++ [false, false, false] ++ after' →
          before'.length ≤ before.length
      · exact ⟨before, after, heq, hlast, hno⟩
      · push Not at hlast
        obtain ⟨before', after', heq', hlonger⟩ := hlast
        have hlength := congrArg List.length heq
        have hlength' := congrArg List.length heq'
        simp only [List.length_append, List.length_cons, List.length_nil] at hlength hlength'
        -- what follows later failures follows the earlier ones, too
        have hsuffix : after' <:+ after :=
          List.suffix_of_suffix_length_le ⟨_, heq'.symm⟩ ⟨_, heq.symm⟩ (by omega)
        exact ih (l.length - before'.length) (by omega) before' after' heq'
          (fun hrun => hno (hrun.trans hsuffix.isInfix)) rfl

instance Ailing.decidable (l : List Bool) : Decidable (Ailing l) :=
  decidable_of_iff
    (∃ k < l.length, [false, false, false] <+: l.drop k ∧ ¬ [true, true] <:+: l.drop (k + 3)) <| by
    rw [ailing_iff]
    constructor
    · rintro ⟨k, -, ⟨after, hafter⟩, hno⟩
      refine ⟨l.take k, after, ?_, ?_⟩
      · rw [List.append_assoc, hafter, List.take_append_drop]
      · rwa [← List.drop_drop, ← hafter] at hno
    · rintro ⟨before, after, rfl, hno⟩
      refine ⟨before.length, by simp, ⟨after, by simp⟩, ?_⟩
      rwa [← List.drop_drop, List.append_assoc, List.drop_left]

lemma not_ailing_nil : ¬ Ailing [] := by decide

/-- One more failure. -/
lemma ailing_concat_false : Ailing (l ++ [false]) ↔ Ailing l ∨ [false, false] <:+ l := by
  rw [ailing_iff, ailing_iff]
  constructor
  · rintro ⟨before, after, heq, hno⟩
    rcases List.eq_nil_or_concat' after with rfl | ⟨rest, x, rfl⟩
    · have hsplit : l ++ [false] = (before ++ [false, false]) ++ [false] := by simpa using heq
      exact Or.inr ⟨before, (List.append_cancel_right hsplit).symm⟩
    · rw [← List.append_assoc] at heq
      obtain ⟨rfl, -⟩ := List.append_inj' heq rfl
      exact Or.inl ⟨before, rest, rfl,
        fun hrun => hno (List.infix_concat_iff.mpr (Or.inr hrun))⟩
  · rintro (⟨before, after, rfl, hno⟩ | ⟨before, rfl⟩)
    · refine ⟨before, after ++ [false], by simp, fun hrun => ?_⟩
      rcases List.infix_concat_iff.mp hrun with hsuffix | hrun
      · simp [List.suffix_concat_iff, List.cons_eq_append_iff] at hsuffix
      · exact hno hrun
    · exact ⟨before, [], by simp, by simp⟩

/-- One more success. -/
lemma ailing_concat_true : Ailing (l ++ [true]) ↔ Ailing l ∧ ¬ [true] <:+ l := by
  rw [ailing_iff, ailing_iff]
  constructor
  · rintro ⟨before, after, heq, hno⟩
    rcases List.eq_nil_or_concat' after with rfl | ⟨rest, x, rfl⟩
    · have hlast := congrArg List.getLast? heq
      simp at hlast
    · rw [← List.append_assoc] at heq
      obtain ⟨rfl, hx⟩ := List.append_inj' heq rfl
      obtain rfl : true = x := by simpa using hx
      refine ⟨⟨before, rest, rfl, fun hrun => hno (List.infix_concat_iff.mpr (Or.inr hrun))⟩,
        fun hsuffix => hno (List.infix_concat_iff.mpr (Or.inl ?_))⟩
      -- a success at the end stands behind the failures
      rcases List.eq_nil_or_concat' rest with rfl | ⟨rest, x, rfl⟩
      · obtain ⟨front, hfront⟩ := hsuffix
        have hlast := congrArg List.getLast? hfront
        simp at hlast
      · rw [← List.append_assoc, List.suffix_concat_iff] at hsuffix
        obtain rfl : true = x := by simpa [List.cons_eq_append_iff] using hsuffix
        exact ⟨rest, by simp⟩
  · rintro ⟨⟨before, after, rfl, hno⟩, hends⟩
    refine ⟨before, after ++ [true], by simp, fun hrun => ?_⟩
    rcases List.infix_concat_iff.mp hrun with ⟨front, hfront⟩ | hrun
    · have hfront' : (front ++ [true]) ++ [true] = after ++ [true] := by simpa using hfront
      have hafter : front ++ [true] = after := List.append_cancel_right hfront'
      exact hends ⟨before ++ [false, false, false] ++ front, by rw [← hafter]; simp⟩
    · exact hno hrun

/-! ## The record of one model -/

namespace Health

/-- The record after an attempt. -/
def note (h : Health) (a : Attempt) : Health := if a.succeeded then h.succeed else h.fail a.time

/-- **The record of a model is what its attempts come to.**  One counter has the failures running
at the end, the other, while the model is unhealthy, the successes running at the end. -/
structure Recalls (h : Health) (log : List Attempt) : Prop where
  healthy : h.healthy = false ↔ Ailing (results log)
  failures : ∀ n, n ≤ h.failures ↔ List.replicate n false <:+ results log
  recoveries : h.healthy = false → ∀ n, n ≤ h.recoveries ↔ List.replicate n true <:+ results log
  lastFailure : h.lastFailure = lastFailure? log

lemma recalls_fresh : Recalls {} [] where
  healthy := by simp [not_ailing_nil, results]
  failures n := by simp [results]
  recoveries h := by cases h
  lastFailure := rfl

/-- So many equal results at the end, when one more is known. -/
lemma replicate_suffix_concat_iff {b x : Bool} {n : Nat} :
    List.replicate n b <:+ l ++ [x] ↔ n = 0 ∨ x = b ∧ List.replicate (n - 1) b <:+ l := by
  cases n with
  | zero => simp
  | succ n =>
      rw [List.suffix_concat_iff, List.replicate_succ', Nat.add_sub_cancel]
      constructor
      · rintro (hnil | ⟨t, heq, hsuffix⟩)
        · simp at hnil
        · obtain ⟨rfl, hx⟩ := List.append_inj' heq rfl
          exact Or.inr ⟨(List.singleton_inj.mp hx).symm, hsuffix⟩
      · rintro (hzero | ⟨rfl, hsuffix⟩)
        · cases hzero
        · exact Or.inr ⟨_, rfl, hsuffix⟩

lemma results_concat (log : List Attempt) (a : Attempt) :
    results (log ++ [a]) = results log ++ [a.succeeded] := by
  simp [results]

variable {h : Health}

/-- A record after a success. -/
lemma Recalls.succeed (hr : h.Recalls log) (time : Nat) :
    h.succeed.Recalls (log ++ [⟨time, true⟩]) := by
  have hailing : Ailing (results (log ++ [⟨time, true⟩])) ↔
      h.healthy = false ∧ ¬ 1 ≤ h.recoveries := by
    rw [results_concat, ailing_concat_true, ← hr.healthy]
    exact and_congr_right fun hill => not_congr (hr.recoveries hill 1).symm
  have hfailures : ∀ n, n ≤ 0 ↔ List.replicate n false <:+ results (log ++ [⟨time, true⟩]) := by
    intro n
    simp [results_concat, replicate_suffix_concat_iff]
  have hlast : h.lastFailure = lastFailure? (log ++ [⟨time, true⟩]) := by
    rw [hr.lastFailure]
    simp [lastFailure?]
  unfold Health.succeed recoveryGoal
  split_ifs with hhealthy hrecovered
  · exact ⟨by simp [hailing, hhealthy], hfailures, fun hill => absurd hill (by simp [hhealthy]),
      hlast⟩
  · exact ⟨by simp [hailing]; omega, hfailures, nofun, hlast⟩
  · rw [Bool.not_eq_true] at hhealthy
    refine ⟨by simp [hailing, hhealthy]; omega, hfailures, fun _ n => ?_, hlast⟩
    rw [results_concat, replicate_suffix_concat_iff]
    have hrun := hr.recoveries hhealthy (n - 1)
    simp only [true_and, ← hrun]
    omega

/-- A record after a failure. -/
lemma Recalls.fail (hr : h.Recalls log) (time : Nat) :
    (h.fail time).Recalls (log ++ [⟨time, false⟩]) where
  healthy := by
    rw [results_concat, ailing_concat_false, ← hr.healthy]
    have htwo : 2 ≤ h.failures ↔ [false, false] <:+ results log := hr.failures 2
    rw [← htwo]
    simp only [Health.fail, Bool.and_eq_false_iff, decide_eq_false_iff_not]
    unfold failureLimit
    exact or_congr_right (by omega)
  failures n := by
    rw [results_concat, replicate_suffix_concat_iff]
    have hrun := hr.failures (n - 1)
    simp only [true_and, ← hrun, Health.fail]
    omega
  recoveries _ n := by
    simp [results_concat, replicate_suffix_concat_iff, Health.fail]
  lastFailure := by simp [Health.fail, lastFailure?]

/-- **One more attempt.** -/
theorem Recalls.note (hr : h.Recalls log) (a : Attempt) : (h.note a).Recalls (log ++ [a]) := by
  obtain ⟨time, succeeded⟩ := a
  cases succeeded with
  | true => exact hr.succeed time
  | false => exact hr.fail time

/-- An ailing model has failed. -/
lemma Recalls.exists_lastFailure (hr : h.Recalls log) (hill : h.healthy = false) :
    ∃ t, lastFailure? log = some t := by
  obtain ⟨before, after, heq, -⟩ := hr.healthy.mp hill
  have hmem : false ∈ results log := by
    rw [heq]
    simp
  obtain ⟨a, ha, hfailed⟩ := List.mem_map.mp hmem
  have hne : (log.filter fun a => !a.succeeded) ≠ [] :=
    List.ne_nil_of_mem (List.mem_filter.mpr ⟨ha, by simp [hfailed]⟩)
  exact ⟨_, by rw [lastFailure?, List.getLast?_eq_getLast_of_ne_nil hne, Option.map_some]⟩

/-- A model may be tried unless it rests. -/
lemma Recalls.isAvailable_eq_true_iff (hr : h.Recalls log) :
    h.isAvailable now = true ↔ ¬ Rests log now := by
  rw [isAvailable, Rests, ← hr.healthy]
  cases hhealthy : h.healthy with
  | true => simp
  | false =>
      obtain ⟨t, ht⟩ := hr.exists_lastFailure hhealthy
      simp [hr.lastFailure, ht]

end Health

/-! ## Pools -/

namespace PoolHealth

variable {p : PoolHealth}

lemma lt_of_isAvailable (h : p.isAvailable now i = true) : i < p.models.length := by
  by_contra hlength
  rw [isAvailable, List.getElem?_eq_none (not_lt.mp hlength)] at h
  cases h

/-- Every fallback has its turn. -/
lemma mem_rotation_iff : i ∈ p.rotation now ↔ i ≠ 0 ∧ p.isAvailable now i = true := by
  rw [rotation, List.mem_filter]
  refine and_congr_left fun havailable => ?_
  simp only [List.mem_map, List.mem_range]
  constructor
  · rintro ⟨k, -, rfl⟩
    omega
  · intro hne
    have hi := lt_of_isAvailable havailable
    set m := p.models.length - 1 with hm
    have hpos : 0 < m := by omega
    have hcursor := Nat.mod_lt p.cursor hpos
    -- so many places behind the one where the rotation stands
    refine ⟨(i - 1 + (m - p.cursor % m)) % m, Nat.mod_lt _ hpos, ?_⟩
    have hsum : p.cursor % m + (i - 1 + (m - p.cursor % m)) = i - 1 + m := by omega
    rw [Nat.add_mod_mod, ← Nat.mod_add_mod, hsum, Nat.add_mod_right, Nat.mod_eq_of_lt (by omega)]
    omega

/-- **What may be tried is tried**; the preferred model is tried also where nothing may be. -/
theorem mem_attemptOrder_iff (hmodels : p.models ≠ []) :
    i ∈ (p.attemptOrder now).1 ↔
      p.isAvailable now i = true ∨ i = 0 ∧ ∀ j, ¬ p.isAvailable now j = true := by
  set order := (if p.isAvailable now 0 then [0] else []) ++ p.rotation now with horder
  have hmem : ∀ j, j ∈ order ↔ p.isAvailable now j = true := by
    intro j
    rw [horder, List.mem_append, mem_rotation_iff]
    by_cases hzero : j = 0
    · subst hzero
      split_ifs with hfirst <;> simp [hfirst]
    · split_ifs <;> simp [hzero]
  have htried : (p.attemptOrder now).1 = if order.isEmpty then [0] else order := by
    rw [attemptOrder, if_neg (by simpa using hmodels)]
  rw [htried]
  split_ifs with hnone
  · have hno : ∀ j, ¬ p.isAvailable now j = true := by
      intro j
      rw [← hmem, List.isEmpty_iff.mp hnone]
      exact List.not_mem_nil
    simp [hno]
  · obtain ⟨j, hj⟩ := List.exists_mem_of_ne_nil order (by simpa using hnone)
    rw [hmem, or_iff_left]
    exact fun hno => hno.2 j ((hmem j).mp hj)

lemma models_attemptOrder (p : PoolHealth) (now : Nat) :
    (p.attemptOrder now).2.models = p.models := by
  rw [attemptOrder]
  split_ifs <;> rfl

lemma getElem?_record (p : PoolHealth) (now j : Nat) (succeeded : Bool) :
    (p.record now j succeeded).models[i]? =
      (p.models[i]?).map fun h => if j = i then h.note ⟨now, succeeded⟩ else h := by
  rw [record, List.getElem?_modify]
  rfl

/-- The pool after an event. -/
def step (p : PoolHealth) : PoolEvent → PoolHealth
  | .asked now => (p.attemptOrder now).2
  | .reported i a => p.record a.time i a.succeeded

/-- The pool after some events. -/
def after (p : PoolHealth) (events : List PoolEvent) : PoolHealth := events.foldl step p

/-- **The records of a pool are what the attempts come to.** -/
def Recalls (p : PoolHealth) (n : Nat) (events : List PoolEvent) : Prop :=
  p.models.length = n ∧
    ∀ i < n, ∃ h, p.models[i]? = some h ∧ h.Recalls (PoolEvent.log i events)

lemma recalls_fresh (n : Nat) : (fresh n).Recalls n [] := by
  refine ⟨List.length_replicate, fun i hi => ⟨{}, ?_, Health.recalls_fresh⟩⟩
  rw [fresh, List.getElem?_replicate_of_lt hi]

/-- **Every event keeps them so.** -/
lemma Recalls.step {n : Nat} {events : List PoolEvent} (hp : p.Recalls n events)
    (event : PoolEvent) : (p.step event).Recalls n (events ++ [event]) := by
  obtain ⟨hlength, hmodels⟩ := hp
  cases event with
  | asked now =>
      rw [PoolHealth.step, Recalls, models_attemptOrder]
      simpa [PoolEvent.log] using ⟨hlength, hmodels⟩
  | reported j a =>
      refine ⟨by simpa [PoolHealth.step, record] using hlength, fun i hi => ?_⟩
      obtain ⟨h, hh, hr⟩ := hmodels i hi
      refine ⟨_, by rw [PoolHealth.step, getElem?_record, hh, Option.map_some], ?_⟩
      by_cases hij : j = i
      · simpa [PoolEvent.log, hij] using hr.note a
      · simpa [PoolEvent.log, hij] using hr

lemma recalls_after (n : Nat) (events : List PoolEvent) :
    ((fresh n).after events).Recalls n events := by
  induction events using List.reverseRecOn with
  | nil => exact recalls_fresh n
  | append_singleton events event ih =>
      rw [after, List.foldl_concat]
      exact ih.step event

variable {n : Nat} {events : List PoolEvent}

lemma Recalls.isAvailable_eq_true_iff (hp : p.Recalls n events) :
    p.isAvailable now i = true ↔ i < n ∧ ¬ Rests (PoolEvent.log i events) now := by
  by_cases hi : i < n
  · obtain ⟨h, hh, hr⟩ := hp.2 i hi
    simp only [isAvailable, hh, hr.isAvailable_eq_true_iff, hi, true_and]
  · simp only [hi, false_and, iff_false]
    exact fun havailable => hi (hp.1 ▸ lt_of_isAvailable havailable)

lemma Recalls.healthyCount (hp : p.Recalls n events) :
    p.healthyCount = (List.range n).countP fun i => ¬ Ailing (results (PoolEvent.log i events)) := by
  have hmap : p.models.map Health.healthy =
      (List.range n).map fun i => decide (¬ Ailing (results (PoolEvent.log i events))) := by
    refine List.ext_getElem? fun i => ?_
    rw [List.getElem?_map, List.getElem?_map]
    by_cases hi : i < n
    · obtain ⟨h, hh, hr⟩ := hp.2 i hi
      rw [hh, List.getElem?_range hi, Option.map_some, Option.map_some, Option.some_inj]
      rw [Bool.eq_iff_iff, decide_eq_true_iff, ← hr.healthy, Bool.not_eq_false]
    · rw [List.getElem?_eq_none (by rw [hp.1]; omega), List.getElem?_eq_none (by simp; omega)]
      rfl
  calc p.healthyCount = (p.models.map Health.healthy).countP id := by
        rw [List.countP_map]
        rfl
    _ = _ := by
        rw [hmap, List.countP_map]
        rfl

/-- **What a pool keeps of its models is what their attempts tell.**  Whatever happened to a pool of
so many models, and in whatever order:

* a model is unhealthy exactly if it failed three times running and has not succeeded twice running
  since the last three failures; then the time of its last failure is known;
* all models are tried except those that rest, unhealthy and with less than the cooldown behind
  their last failure; where all of them rest, the preferred one is tried;
* asking changes no record, and a report changes none but the one of its model;
* as many models are healthy as are counted. -/
theorem health_by_attempts (n : Nat) (events : List PoolEvent) :
    let p := (fresh n).after events
    (∀ i < n, ∃ h, p.models[i]? = some h ∧
      (h.healthy = false ↔ Ailing (results (PoolEvent.log i events))) ∧
      (h.healthy = false → ∃ t, h.lastFailure = some t ∧
        lastFailure? (PoolEvent.log i events) = some t)) ∧
    (∀ now, ∀ i < n, i ∈ (p.attemptOrder now).1 ↔
      ¬ Rests (PoolEvent.log i events) now ∨
        i = 0 ∧ ∀ j < n, Rests (PoolEvent.log j events) now) ∧
    (∀ now, (p.attemptOrder now).2.models = p.models) ∧
    (∀ now i j succeeded, i ≠ j →
      (p.record now j succeeded).models[i]? = p.models[i]?) ∧
    p.healthyCount =
      (List.range n).countP fun i => ¬ Ailing (results (PoolEvent.log i events)) := by
  intro p
  have hp : p.Recalls n events := recalls_after n events
  refine ⟨fun i hi => ?_, fun now i hi => ?_, models_attemptOrder p, fun now i j succeeded hij => ?_,
    hp.healthyCount⟩
  · obtain ⟨h, hh, hr⟩ := hp.2 i hi
    refine ⟨h, hh, hr.healthy, fun hill => ?_⟩
    obtain ⟨t, ht⟩ := hr.exists_lastFailure hill
    exact ⟨t, hr.lastFailure.trans ht, ht⟩
  · have hmodels : p.models ≠ [] := List.ne_nil_of_length_pos (by rw [hp.1]; omega)
    rw [mem_attemptOrder_iff hmodels]
    simp only [hp.isAvailable_eq_true_iff, hi, true_and, not_and, not_not]
  · rw [getElem?_record]
    simp [Ne.symm hij]

/-- Two models that failed three times.  The first one succeeded and failed again: it rests until
the cooldown after its fourth failure.  The other one has succeeded twice since. -/
theorem health_by_attempts_pair :
    let failed (i t : Nat) : PoolEvent := .reported i ⟨t, false⟩
    let succeeded (i t : Nat) : PoolEvent := .reported i ⟨t, true⟩
    let events := [failed 0 1, failed 1 2, failed 0 3, failed 1 4, failed 0 5, failed 1 6, .asked 7,
      succeeded 0 8, succeeded 1 9, failed 0 10, succeeded 1 11]
    let p := (fresh 2).after events
    (∃ h, p.models[0]? = some h ∧ h.healthy = false ∧ h.lastFailure = some 10) ∧
      (∃ h, p.models[1]? = some h ∧ h.healthy = true) ∧
      0 ∉ (p.attemptOrder 300009).1 ∧ 0 ∈ (p.attemptOrder 300010).1 ∧ p.healthyCount = 1 := by
  intro failed succeeded events p
  obtain ⟨hmodels, horder, -, -, hcount⟩ := health_by_attempts 2 events
  have hfirst : Ailing (results (PoolEvent.log 0 events)) := by decide
  have hsecond : ¬ Ailing (results (PoolEvent.log 1 events)) := by decide
  have hlast : lastFailure? (PoolEvent.log 0 events) = some 10 := by decide
  refine ⟨?_, ?_, ?_, ?_, hcount.trans (by decide)⟩
  · obtain ⟨h, hh, hhealthy, htime⟩ := hmodels 0 (by decide)
    obtain ⟨t, ht, hlog⟩ := htime (hhealthy.mpr hfirst)
    exact ⟨h, hh, hhealthy.mpr hfirst, ht.trans (hlog.symm.trans hlast)⟩
  · obtain ⟨h, hh, hhealthy, -⟩ := hmodels 1 (by decide)
    exact ⟨h, hh, by simpa using mt hhealthy.mp hsecond⟩
  · rw [horder 300009 0 (by decide)]
    rintro (hawake | ⟨-, hall⟩)
    · exact hawake ⟨hfirst, 10, hlast, by decide⟩
    · exact hsecond (hall 1 (by decide)).1
  · refine (horder 300010 0 (by decide)).mpr (Or.inl ?_)
    rintro ⟨-, t, ht, hlt⟩
    obtain rfl := Option.some.inj (hlast.symm.trans ht)
    exact absurd hlt (by decide)

end PoolHealth

end Blockflow
