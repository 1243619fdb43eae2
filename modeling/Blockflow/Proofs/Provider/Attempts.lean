import Blockflow.Proofs.Provider.Repetition
import Mathlib.Data.ENat.Lattice

/-!
# How often a call is made, and how long it waits

A call is made again as long as it fails in a way that may pass and repetitions are left: so the
number of calls is the place of the first outcome that settles it, or one more than the number of
repetitions, whichever is less.  The waits in between double up to a limit.  They are computed with
words that stop at the largest one; since the limit is a word too, nothing is lost by that.

* `Retry.toNat_saturatingMul`, `toNat_saturatingPow` — arithmetic that stops at the largest word.
* `Retry.pause_steady` — the nominal waits.
* `Retry.firstSettled` — the place of the first outcome that settles a call.
* `Tries.length_eq` — how many trials there are.
* `exists_tries` — and that there are as many.
* **`Retry.calls_counted`** — calls and waits.
-/

namespace Blockflow.Retry

open Activity

variable {c : RetryConfig} {jitter : Jitter} {inner : ModelClient} {request : ModelRequest}
  {p : Activity (Except Error Stream)} {left i n : Nat} {t : Trial} {trials : List Trial}
  {r : Except Error Stream} {outcomes : ℕ → Except Error Stream}

/-! ## Waits -/

/-- The largest word. -/
def largest : Nat := UInt64.size - 1

lemma toNat_saturatingMul (a b : UInt64) :
    (saturatingMul a b).toNat = min (a.toNat * b.toNat) largest := by
  rw [saturatingMul]
  split_ifs with h
  · have hword : a.toNat * b.toNat ≤ largest := Nat.le_pred_of_lt h
    rw [UInt64.toNat_mul, Nat.mod_eq_of_lt h, Nat.min_eq_left hword]
  · have hlarge : largest ≤ a.toNat * b.toNat := (Nat.sub_le _ _).trans (Nat.le_of_not_lt h)
    rw [UInt64.toNat_ofNat', Nat.min_eq_right hlarge]
    rfl

/-- It is enough to stop at the largest word in the end. -/
lemma min_min_mul (x y z : Nat) : min (min x z * y) z = min (x * y) z := by
  rcases Nat.le_total x z with hx | hx
  · rw [Nat.min_eq_left hx]
  · rw [Nat.min_eq_right hx]
    cases y with
    | zero => rw [Nat.mul_zero, Nat.mul_zero]
    | succ y =>
        have hz : z ≤ z * (y + 1) := Nat.le_mul_of_pos_right z (Nat.succ_pos y)
        rw [Nat.min_eq_right hz, Nat.min_eq_right (hz.trans (Nat.mul_le_mul_right _ hx))]

lemma toNat_saturatingPow (a : UInt64) (n : Nat) :
    (saturatingPow a n).toNat = min (a.toNat ^ n) largest := by
  induction n with
  | zero => rfl
  | succ n ih => rw [saturatingPow, toNat_saturatingMul, ih, min_min_mul, Nat.pow_succ]

/-- **The nominal wait**, computed with words, is what it is in numbers. -/
lemma backoff_eq (hinitial : c.initialBackoffMs < 2 ^ 64) (hlimit : c.maxBackoffMs < 2 ^ 64)
    (attempt : Nat) :
    backoff c attempt = min (c.initialBackoffMs * 2 ^ attempt) c.maxBackoffMs := by
  have hle : c.maxBackoffMs ≤ largest := Nat.le_pred_of_lt hlimit
  rw [backoff]
  simp only [UInt64.toNat_min, toNat_saturatingMul, toNat_saturatingPow, UInt64.toNat_ofNat',
    Nat.mod_eq_of_lt hinitial, Nat.mod_eq_of_lt hlimit]
  rw [Nat.mul_comm, min_min_mul, Nat.mul_comm, Nat.min_assoc, Nat.min_eq_right hle]
  rfl

/-- The wait without variation. -/
lemma pause_steady (c : RetryConfig) : pause c steady = backoff c := by
  funext attempt
  exact Nat.mul_div_cancel _ (Nat.succ_pos 999)

/-! ## Calls -/

/-- An outcome that settles a call: a stream, or a failure that does not pass. -/
def Settles (r : Except Error Stream) : Prop := ∀ e, r = .error e → isRetryable e = false

/-- **The place of the first outcome that settles a call**, counted from one, if there is one. -/
noncomputable def firstSettled (outcomes : ℕ → Except Error Stream) : ℕ∞ :=
  ⨅ (i : ℕ) (_ : Settles (outcomes i)), ((i + 1 : ℕ) : ℕ∞)

lemma settles_iff : Settles t.outcome ↔ ¬ t.MayPass := by
  simp [Settles, Trial.MayPass]

/-- The first outcome that settles a call stands behind those that do not. -/
lemma le_firstSettled (h : ∀ i < n, ¬ Settles (outcomes i)) :
    ((n + 1 : ℕ) : ℕ∞) ≤ firstSettled outcomes := by
  refine le_iInf₂ fun i hi => ?_
  have hbehind : n ≤ i := Nat.le_of_not_lt fun hlt => h i hlt hi
  exact_mod_cast Nat.succ_le_succ hbehind

lemma firstSettled_le (h : Settles (outcomes i)) : firstSettled outcomes ≤ ((i + 1 : ℕ) : ℕ∞) :=
  iInf₂_le i h

/-- **How many trials there are.** -/
theorem Tries.length_eq (h : Tries p left trials r)
    (houtcomes : ∀ i t, trials[i]? = some t → outcomes i = t.outcome) :
    (trials.length : ℕ∞) = min (firstSettled outcomes) ((left + 1 : ℕ) : ℕ∞) := by
  obtain ⟨n, hn⟩ := Nat.exists_eq_succ_of_ne_zero (List.length_pos_iff.mpr h.ne_nil).ne'
  -- a trial is followed by another one exactly if repetitions are left and it settles nothing
  have hagain : ∀ i < trials.length, (i < n ↔ i < left ∧ ¬ Settles (outcomes i)) := by
    intro i hi
    have ht := List.getElem?_eq_getElem hi
    rw [houtcomes i _ ht, settles_iff, not_not, ← h.again_iff ht]
    omega
  have hbefore : ∀ i < n, i < left ∧ ¬ Settles (outcomes i) :=
    fun i hi => (hagain i (by omega)).mp hi
  have hlast : ¬ (n < left ∧ ¬ Settles (outcomes n)) :=
    fun hmore => Nat.lt_irrefl n ((hagain n (by omega)).mpr hmore)
  rw [hn]
  refine le_antisymm (le_min (le_firstSettled fun i hi => (hbefore i hi).2) ?_) ?_
  · have hallowed : n ≤ left := by
      cases n with
      | zero => exact Nat.zero_le _
      | succ n => exact (hbefore n (Nat.lt_succ_self n)).1
    exact_mod_cast Nat.succ_le_succ hallowed
  · by_cases hsettles : Settles (outcomes n)
    · exact (min_le_left _ _).trans (firstSettled_le hsettles)
    · have hspent : left ≤ n := Nat.le_of_not_lt fun hlt => hlast ⟨hlt, hsettles⟩
      exact (min_le_right _ _).trans (by exact_mod_cast Nat.succ_le_succ hspent)

/-- **Whatever the trials come to**, as many as there are make up a call. -/
lemma exists_tries (trial : ℕ → Trial) (hof : ∀ i, (trial i).Of p) (left : Nat) :
    ∃ n, Tries p left ((List.range n).map trial) (trial (n - 1)).outcome := by
  induction left generalizing trial with
  | zero => exact ⟨1, .settled (hof 0) (.inl rfl)⟩
  | succ left ih =>
      by_cases hpass : (trial 0).MayPass
      · obtain ⟨n, hn⟩ := ih (fun i => trial (i + 1)) fun i => hof (i + 1)
        have hpos : 0 < n := by simpa using List.length_pos_iff.mpr hn.ne_nil
        refine ⟨n + 1, ?_⟩
        have hend : n - 1 + 1 = n := Nat.sub_add_cancel hpos
        rw [hend] at hn
        rw [List.range_succ_eq_map, List.map_cons, List.map_map]
        exact .again (hof 0) hpass hn
      · exact ⟨1, .settled (hof 0) (.inr hpass)⟩

/-- **How often a call is made, and how long it waits.**  Whatever client is asked, and whatever its
calls come to:

* All calls are made with the same request.  They are as many as the place of the first outcome that
  is a stream or a failure that does not pass, but no more than one and the number of repetitions;
  and what the last one comes to is what comes of it all.
* As many calls as these do come to an end.
* The nominal wait before the first repetition is the initial one, and it doubles with each, but for
  the limit: so it never becomes shorter, and never longer than that. -/
theorem calls_counted (c : RetryConfig) (hinitial : c.initialBackoffMs < 2 ^ 64)
    (hlimit : c.maxBackoffMs < 2 ^ 64) (jitter : Jitter) (inner : ModelClient)
    (request : ModelRequest) :
    (∀ log r, (client c jitter inner request).Logs log (some r) →
      ∃ trials, log = joined c jitter 0 trials ∧ (∀ t ∈ trials, t.Of (inner request)) ∧
        ∀ outcomes : ℕ → Except Error Stream,
          (∀ (i : ℕ) (t : Trial), trials[i]? = some t → outcomes i = t.outcome) →
            (trials.length : ℕ∞) = min (firstSettled outcomes) ((c.maxRetries + 1 : ℕ) : ℕ∞) ∧
              outcomes (trials.length - 1) = r) ∧
    (∀ trial : ℕ → Trial, (∀ i, (trial i).Of (inner request)) →
      ∃ n : ℕ, (n : ℕ∞) =
          min (firstSettled fun i => (trial i).outcome) ((c.maxRetries + 1 : ℕ) : ℕ∞) ∧
        (client c jitter inner request).Logs (joined c jitter 0 ((List.range n).map trial))
          (some (trial (n - 1)).outcome)) ∧
    (∀ i, pause c steady i = min (c.initialBackoffMs * 2 ^ i) c.maxBackoffMs) ∧
    Monotone (pause c steady) ∧ ∀ i, pause c steady i ≤ c.maxBackoffMs := by
  have hpause : ∀ i, pause c steady i = min (c.initialBackoffMs * 2 ^ i) c.maxBackoffMs := by
    rw [pause_steady]
    exact backoff_eq hinitial hlimit
  refine ⟨fun log r h => ?_, fun trial hof => ?_, hpause, fun i j hij => ?_, fun i => ?_⟩
  · obtain ⟨trials, hlog, htries⟩ := logs_client_iff.mp h
    refine ⟨trials, hlog, htries.of_mem, fun outcomes houtcomes => ⟨htries.length_eq houtcomes, ?_⟩⟩
    obtain ⟨t, ht, hr⟩ := htries.getLast?_eq
    rw [List.getLast?_eq_getElem?] at ht
    rw [houtcomes _ t ht, hr]
  · obtain ⟨n, htries⟩ := exists_tries trial hof c.maxRetries
    refine ⟨n, ?_, logs_client_iff.mpr ⟨_, rfl, htries⟩⟩
    have houtcomes : ∀ (i : ℕ) (t : Trial), ((List.range n).map trial)[i]? = some t →
        (trial i).outcome = t.outcome := by
      intro i t ht
      obtain ⟨hi, rfl⟩ := List.getElem?_eq_some_iff.mp ht
      simp
    simpa using htries.length_eq houtcomes
  · rw [hpause, hpause]
    exact min_le_min_right _ (Nat.mul_le_mul_left _ (Nat.pow_le_pow_right (by decide) hij))
  · rw [hpause]
    exact min_le_right _ _

/-- A model that is asked twice in vain, and then begins a stream. -/
def thirdTime (i : ℕ) : Trial :=
  let outcome : Except Error Stream := if i < 2 then .error (.llmStream "busy") else .ok brokenOff
  ⟨[.asked (.ask .worker greeting), .heard ⟨.ask .worker greeting, outcome⟩], outcome⟩

/-- Of six calls that are allowed three are made.  The second wait would be too long for a word, and
is as long as a word can say. -/
theorem calls_counted_busy :
    let c : RetryConfig :=
      { maxRetries := 5, initialBackoffMs := 2 ^ 64 - 1, maxBackoffMs := 2 ^ 64 - 1 }
    c.initialBackoffMs < 2 ^ 64 ∧ c.maxBackoffMs < 2 ^ 64 ∧
      (∀ i, (thirdTime i).Of (askModel .worker greeting)) ∧
      (client c steady (askModel .worker) greeting).Logs
        (joined c steady 0 [thirdTime 0, thirdTime 1, thirdTime 2]) (some (.ok brokenOff)) ∧
      pause c steady 1 = 2 ^ 64 - 1 := by
  intro c
  have hof : ∀ i, (thirdTime i).Of (askModel .worker greeting) :=
    fun i => logs_askModel_iff.mpr (.inr ⟨_, rfl, rfl⟩)
  obtain ⟨-, hcalls, hpause, -, -⟩ :=
    calls_counted c (by decide) (by decide) steady (askModel .worker) greeting
  obtain ⟨n, hn, hlogs⟩ := hcalls thirdTime hof
  have hthird : firstSettled (fun i => (thirdTime i).outcome) = ((3 : ℕ) : ℕ∞) := by
    refine le_antisymm (firstSettled_le fun e he => ?_) (le_firstSettled fun i hi hsettles => ?_)
    · cases he
    · have hbusy : (thirdTime i).outcome = .error (.llmStream "busy") := if_pos hi
      cases hsettles _ hbusy
  obtain rfl : n = 3 := by
    have hle : ((3 : ℕ) : ℕ∞) ≤ ((c.maxRetries + 1 : ℕ) : ℕ∞) := Nat.cast_le.mpr (by decide)
    rw [hthird, min_eq_left hle] at hn
    exact_mod_cast hn
  exact ⟨by decide, by decide, hof, hlogs, by rw [hpause]; decide⟩

end Blockflow.Retry
