import Blockflow.Proofs.Provider.Repetition
import Blockflow.Proofs.Provider.Rotation
import Blockflow.Provider.Stack

/-!
# Failing over within one call

A client for several models learns once, at the beginning, in which order to try them, and goes
along that order until a stream begins.  Whatever becomes of the health of the models meanwhile,
through its own reports or those of other calls, the order stands.

* `Log.reports`, `Call.SparesPool` — what a log reports of pooled models, and calls that leave them
  alone.
* `Failover.Contact` — a call of one of the models, with the report of how it went.
* **`Failover.Tries`** — the contacts along an order, and what comes of them;
  **`Failover.logs_tryAll_iff`** — they are what happens in the attempts of a call.
* **`Failover.fails_over`** — a call of a client for several models, whatever happened to the pool.
* `Settings.exists_candidates_of_client` — the client of a deployment with fallbacks is one.
-/

namespace Blockflow

open Activity

/-! ## What a log reports -/

/-- Nobody asks which pooled models to try, nor reports how it went with one. -/
def Call.SparesPool : Call → Prop
  | .attempts | .report _ _ => False
  | .wait _ | .ask _ _ | .note _ | .exchange _ => True

/-- The report that an entry makes: of which model, and whether it answered. -/
def LogEntry.report? : LogEntry → Option (Nat × Bool)
  | .asked (.report i succeeded) => some (i, succeeded)
  | _ => none

namespace Log

variable {front log : List LogEntry}

/-- The reports on pooled models. -/
def reports (log : List LogEntry) : List (Nat × Bool) := log.filterMap LogEntry.report?

@[simp] lemma reports_append : reports (front ++ log) = reports front ++ reports log :=
  List.filterMap_append

/-- What spares the pool reports nothing. -/
lemma reports_of_sparesPool (h : ∀ x ∈ log, x.call.SparesPool) : reports log = [] := by
  refine List.filterMap_eq_nil_iff.mpr fun x hx => ?_
  match x, h x hx with
  | .heard _, _ => rfl
  | .asked (.wait _), _ | .asked (.ask _ _), _ | .asked (.note _), _ | .asked (.exchange _), _ =>
      rfl

end Log

namespace Failover

variable {candidates : List Candidate} {request : ModelRequest} {last : Error} {order : List Nat}
  {i : Nat} {log : List LogEntry} {r : Except Error Stream}

/-! ## Contacts -/

/-- A call of one of the models: at which place it stands, what happened and what came of it. -/
structure Contact extends Trial where
  index : Nat

namespace Contact

/-- A stream began. -/
def answered (c : Contact) : Bool := c.outcome.isOk

/-- The report on the model. -/
def report (c : Contact) : Nat × Bool := (c.index, c.answered)

/-- All that happens: the call of the model, and the report that is made of it. -/
def entries (c : Contact) : List LogEntry :=
  c.log ++ [.asked (.report c.index c.answered), .heard ⟨.report c.index c.answered, ()⟩]

/-- **It is the model at this place that was asked**: the preferred one as the caller asks, the
others as their own settings say. -/
def Follows (candidates : List Candidate) (request : ModelRequest) (c : Contact) : Prop :=
  ∃ candidate, candidates[c.index]? = some candidate ∧
    c.Of (candidate.client
      { request with config := if c.index = 0 then request.config else candidate.config })

end Contact

/-- The contacts report themselves and nothing else, if the models leave the pool alone. -/
lemma reports_entries {contacts : List Contact}
    (hspare : ∀ c ∈ candidates, ∀ request, (c.client request).Only Call.SparesPool)
    (hfollows : ∀ c ∈ contacts, c.Follows candidates request) :
    Log.reports (contacts.flatMap Contact.entries) = contacts.map Contact.report := by
  induction contacts with
  | nil => rfl
  | cons c contacts ih =>
      obtain ⟨hc, hrest⟩ := List.forall_mem_cons.mp hfollows
      obtain ⟨candidate, hget, hof⟩ := hc
      have hquiet : Log.reports c.log = [] :=
        Log.reports_of_sparesPool (hof.only (hspare candidate (List.mem_of_getElem? hget) _))
      rw [List.flatMap_cons, Contact.entries, Log.reports_append, Log.reports_append, hquiet,
        ih hrest]
      rfl

/-! ## The contacts along an order -/

/-- **The contacts along an order**, and what comes of them; the error stands if there are none. -/
inductive Tries (candidates : List Candidate) (request : ModelRequest) :
    Error → List Nat → List Contact → Except Error Stream → Prop
  | exhausted (last : Error) : Tries candidates request last [] [] (.error last)
  | answered {last : Error} {c : Contact} {s : Stream} (rest : List Nat)
    (follows : c.Follows candidates request) (outcome : c.outcome = .ok s) :
    Tries candidates request last (c.index :: rest) [c] (.ok s)
  | failed {last e : Error} {c : Contact} {rest : List Nat} {contacts : List Contact}
    {r : Except Error Stream} (follows : c.Follows candidates request)
    (outcome : c.outcome = .error e) (next : Tries candidates request e rest contacts r) :
    Tries candidates request last (c.index :: rest) (c :: contacts) r

namespace Tries

variable {contacts : List Contact}

lemma follows_of_mem (h : Tries candidates request last order contacts r) :
    ∀ c ∈ contacts, c.Follows candidates request := by
  induction h with
  | exhausted => simp
  | answered _ follows _ => simpa using follows
  | failed follows _ _ ih => simpa using ⟨follows, ih⟩

/-- No model is left out before one that is asked. -/
lemma isPrefix_indices (h : Tries candidates request last order contacts r) :
    contacts.map Contact.index <+: order := by
  induction h with
  | exhausted => simp
  | answered rest => simp
  | failed _ _ _ ih => simpa using ih

/-- Where no stream begins, all models of the order were asked. -/
lemma indices_of_error {e : Error} (h : Tries candidates request last order contacts (.error e)) :
    contacts.map Contact.index = order := by
  generalize hr : (.error e : Except Error Stream) = r at h
  induction h with
  | exhausted => rfl
  | answered => cases hr
  | failed _ _ _ ih => rw [List.map_cons, ih hr]

/-- **All contacts but the last one failed**, and what comes of them is what came of that one. -/
lemma exists_last (h : Tries candidates request last order contacts r) (horder : order ≠ []) :
    ∃ failed c, contacts = failed ++ [c] ∧ (∀ f ∈ failed, f.answered = false) ∧ c.outcome = r := by
  induction h with
  | exhausted => exact absurd rfl horder
  | @answered _ c _ _ _ outcome => exact ⟨[], c, rfl, by simp, outcome⟩
  | @failed _ e c rest contacts r _ outcome next ih =>
      have hfailed : c.answered = false := by rw [Contact.answered, outcome]; rfl
      cases next with
      | exhausted => exact ⟨[], c, rfl, by simp, outcome⟩
      | answered | failed =>
          obtain ⟨failed, c', hcontacts, hfailures, hr⟩ := ih (List.cons_ne_nil _ _)
          exact ⟨c :: failed, c', by rw [hcontacts, List.cons_append],
            List.forall_mem_cons.mpr ⟨hfailed, hfailures⟩, hr⟩

end Tries

/-! ## The attempts of a call -/

lemma requestFor_eq (request : ModelRequest) (i : Nat) (c : Candidate) :
    requestFor request i c =
      { request with config := if i = 0 then request.config else c.config } := by
  rw [requestFor]
  split_ifs <;> rfl

/-- One contact: a stream that begins is handed on, and after an error the next model is tried. -/
lemma tryAll_cons {candidate : Candidate} {rest : List Nat}
    (h : candidates[i]? = some candidate) :
    tryAll candidates request last (i :: rest) =
      candidate.client (requestFor request i candidate) >>= fun outcome =>
        match outcome with
        | .ok s => Activity.report i true >>= fun _ => pure (.ok s)
        | .error e => Activity.report i false >>= fun _ => tryAll candidates request e rest := by
  rewrite [tryAll, h]
  rfl

/-- **What happens along an order begins with one contact**, and goes on if that one failed. -/
lemma logs_tryAll_cons_iff {rest : List Nat} (hi : i < candidates.length) :
    (tryAll candidates request last (i :: rest)).Logs log (some r) ↔
      ∃ (c : Contact) (back : List LogEntry), c.index = i ∧ c.Follows candidates request ∧
        log = c.entries ++ back ∧
        ((∃ s, c.outcome = .ok s ∧ back = [] ∧ r = .ok s) ∨
          ∃ e, c.outcome = .error e ∧ (tryAll candidates request e rest).Logs back (some r)) := by
  have hget := List.getElem?_eq_getElem hi
  rw [tryAll_cons hget, logs_bind_some_iff, requestFor_eq]
  constructor
  · rintro ⟨front, after, outcome, rfl, hfront, hafter⟩
    cases outcome with
    | ok s =>
        obtain ⟨⟨⟩, back, rfl, hback⟩ := logs_call_bind_iff.mp hafter
        obtain ⟨rfl, hr⟩ := logs_pure_iff.mp hback
        exact ⟨⟨⟨front, .ok s⟩, i⟩, [], rfl, ⟨_, hget, hfront⟩,
          (List.append_assoc front [_, _] _).symm, .inl ⟨s, rfl, rfl, Option.some.inj hr⟩⟩
    | error e =>
        obtain ⟨⟨⟩, back, rfl, hback⟩ := logs_call_bind_iff.mp hafter
        exact ⟨⟨⟨front, .error e⟩, i⟩, back, rfl, ⟨_, hget, hfront⟩,
          (List.append_assoc front [_, _] _).symm, .inr ⟨e, rfl, hback⟩⟩
  · rintro ⟨c, back, rfl, ⟨candidate, hcandidate, hof⟩, rfl, hends⟩
    obtain rfl := Option.some.inj (hget.symm.trans hcandidate)
    rw [Contact.entries, List.append_assoc]
    refine ⟨c.log, _, c.outcome, rfl, hof, ?_⟩
    rcases hends with ⟨s, hs, rfl, rfl⟩ | ⟨e, he, hback⟩
    · rw [Contact.answered, hs]
      exact logs_call_bind_iff.mpr ⟨(), [], rfl, logs_pure_iff.mpr ⟨rfl, rfl⟩⟩
    · rw [Contact.answered, he]
      exact logs_call_bind_iff.mpr ⟨(), back, rfl, hback⟩

/-- **What happens in the attempts of a call.** -/
theorem logs_tryAll_iff (horder : ∀ i ∈ order, i < candidates.length) :
    (tryAll candidates request last order).Logs log (some r) ↔
      ∃ contacts, log = contacts.flatMap Contact.entries ∧
        Tries candidates request last order contacts r := by
  induction order generalizing last log with
  | nil =>
      rw [tryAll, logs_pure_iff]
      constructor
      · rintro ⟨rfl, hr⟩
        obtain rfl := Option.some.inj hr
        exact ⟨[], rfl, .exhausted last⟩
      · rintro ⟨contacts, rfl, ⟨⟩⟩
        exact ⟨rfl, rfl⟩
  | cons i rest ih =>
      obtain ⟨hi, hrest⟩ := List.forall_mem_cons.mp horder
      rw [logs_tryAll_cons_iff hi]
      constructor
      · rintro ⟨c, back, rfl, hfollows, rfl, ⟨s, hs, rfl, rfl⟩ | ⟨e, he, hback⟩⟩
        · exact ⟨[c], by simp, .answered rest hfollows hs⟩
        · obtain ⟨contacts, rfl, htries⟩ := (ih hrest).mp hback
          exact ⟨c :: contacts, rfl, .failed hfollows he htries⟩
      · rintro ⟨contacts, rfl, htries⟩
        cases htries with
        | @answered _ c s _ follows outcome =>
            exact ⟨c, [], rfl, follows, by simp, .inl ⟨s, outcome, rfl, rfl⟩⟩
        | @failed _ e c _ contacts _ follows outcome next =>
            exact ⟨c, _, rfl, follows, rfl,
              .inr ⟨e, outcome, (ih hrest).mpr ⟨contacts, rfl, next⟩⟩⟩

/-! ## One call -/

/-- What a call does once it has learned the order. -/
lemma logs_client_learned_iff :
    (client candidates request).Logs (.asked .attempts :: .heard ⟨.attempts, order⟩ :: log)
        (some r) ↔
      (tryAll candidates request nothingToTry order).Logs log (some r) := by
  constructor
  · intro h
    cases h with
    | answered _ _ rest => exact rest
  · exact fun h => .answered (c := .attempts) 0 order h

/-- **A call of a client for several models.**  Take some models, at least one, whatever happened to
their pool so far, and the order that the pool gives to a call now.  However the calls that are made
from then on are answered, the call comes to an end.  And whatever happens in it,

* it contacts models along the order, each of them once, and leaves none out; each contact is a
  call of the model at that place, the preferred one with the caller's settings, any other with its
  own, and is reported before the next one;
* all contacts failed, except perhaps the last one, and what came of that is what the call comes to;
* if this is an error, the whole order was tried: all models that could be tried when the call
  began, or the preferred one, if there were none;
* if the models themselves leave the pool alone, the reports are those on the contacts. -/
theorem fails_over (hmodels : candidates ≠ []) (past : List PoolEvent) (now : Nat)
    (request : ModelRequest) :
    let p := (PoolHealth.fresh candidates.length).after past
    let order := (p.attemptOrder now).1
    let Ends (log : List LogEntry) (r : Except Error Stream) :=
      (client candidates request).Logs (.asked .attempts :: .heard ⟨.attempts, order⟩ :: log)
        (some r)
    (∀ answer : List LogEntry → (c : Call) → Nat × c.Answer,
      (answer [.asked .attempts] .attempts).2 = order →
        ∃ log r, Ends log r ∧ ∀ front reply back,
          .asked .attempts :: .heard ⟨.attempts, order⟩ :: log = front ++ .heard reply :: back →
            reply.answer = (answer front reply.call).2) ∧
    ∀ log r, Ends log r → ∃ failed contact,
      let contacts : List Contact := failed ++ [contact]
      log = contacts.flatMap Contact.entries ∧
      contacts.map Contact.index <+: order ∧ (contacts.map Contact.index).Nodup ∧
      (∀ c ∈ contacts, c.Follows candidates request) ∧
      (∀ c ∈ failed, c.answered = false) ∧ contact.outcome = r ∧
      (∀ e, r = .error e → contacts.map Contact.index = order ∧
        (∀ i, p.isAvailable now i = true → ∃ c ∈ contacts, c.index = i) ∧
        ((∀ i, ¬ p.isAvailable now i = true) → contacts.map Contact.index = [0])) ∧
      ((∀ c ∈ candidates, ∀ request, (c.client request).Only Call.SparesPool) →
        Log.reports log = contacts.map Contact.report) := by
  intro p order Ends
  have hlength : p.models.length = candidates.length :=
    (PoolHealth.recalls_after candidates.length past).1
  have hpool : p.models ≠ [] := by
    rw [← List.length_pos_iff, hlength]
    exact List.length_pos_of_ne_nil hmodels
  refine ⟨fun answer hanswer => ?_, fun log r hends => ?_⟩
  · obtain ⟨full, r, hlogs, hheard⟩ := exists_logs_following (client candidates request) answer
    cases hlogs with
    | @answered _ _ log _ ms learned rest =>
        obtain rfl : learned = order := (hheard [_] _ log rfl).trans hanswer
        exact ⟨log, r, .answered ms _ rest, hheard⟩
  · have hlt : ∀ i ∈ order, i < candidates.length := fun i hi =>
      hlength ▸ PoolHealth.lt_of_mem_attemptOrder hi
    obtain ⟨contacts, hlog, htries⟩ := (logs_tryAll_iff hlt).mp (logs_client_learned_iff.mp hends)
    obtain ⟨failed, contact, rfl, hfailed, hr⟩ :=
      htries.exists_last (PoolHealth.attemptOrder_ne_nil hpool)
    refine ⟨failed, contact, hlog, htries.isPrefix_indices,
      (p.nodup_attemptOrder now).sublist htries.isPrefix_indices.sublist,
      htries.follows_of_mem, hfailed, hr, ?_, fun hspare => ?_⟩
    · rintro e rfl
      have hall := htries.indices_of_error
      refine ⟨hall, fun i hi => ?_, fun hnone => ?_⟩
      · have hmem : i ∈ order := (PoolHealth.mem_attemptOrder_iff hpool).mpr (.inl hi)
        exact List.mem_map.mp (hall ▸ hmem)
      · exact hall.trans (PoolHealth.attemptOrder_of_none hpool hnone)
    · rw [hlog]
      exact reports_entries hspare htries.follows_of_mem

/-- The preferred model fails, the first fallback rests, and the second one answers.  It is asked by
its own settings, and what the pool keeps afterwards are these two attempts. -/
theorem fails_over_past_resting :
    let candidate (i : Nat) (model : String) : Candidate :=
      ⟨{ modelId := model }, askModel (.candidate i)⟩
    let candidates := [candidate 0 "small", candidate 1 "middle", candidate 2 "large"]
    let failing (t : Nat) : PoolEvent := .reported 1 ⟨t, false⟩
    let p := (PoolHealth.fresh 3).after [failing 1, failing 2, failing 3]
    let w : World :=
      { clock := 4, pool := p,
        candidates := [[.failure (.llmRequest "busy")], [.answers "Hi"], [.answers "Hello"]] }
    let hello : Stream := { deltas := [.text "Hello"], failure := none }
    let called := Retry.greeting
    let ended := (client candidates called).run w
    (p.attemptOrder 4).1 = [0, 2] ∧
      ended.1.requests = [(.candidate 0, called),
        (.candidate 2, { called with config := { modelId := "large" } })] ∧
      ended.1.pool = p.after [.asked 4, .reported 0 ⟨4, false⟩, .reported 2 ⟨4, true⟩] ∧
      ∃ log failed c,
        (client candidates called).Logs (.asked .attempts :: .heard ⟨.attempts, [0, 2]⟩ :: log)
          (some (.ok hello)) ∧
        Log.reports log = [(0, false), (2, true)] ∧
        (failed ++ [c]).map Contact.report = [(0, false), (2, true)] ∧
        c.outcome = .ok hello := by
  intro candidate candidates failing p w hello called ended
  have horder : (p.attemptOrder 4).1 = [0, 2] := by decide
  have hends : (client candidates called).Logs (.asked .attempts :: .heard ⟨.attempts, [0, 2]⟩ :: _)
      (some (.ok hello)) :=
    .answered (c := .attempts) 0 [0, 2] <|
    .answered (c := .ask (.candidate 0) called) 0 (.error (.llmRequest "busy")) <|
    .answered (c := .report 0 false) 0 () <|
    .answered (c := .ask (.candidate 2) { called with config := { modelId := "large" } }) 0
      (.ok hello) <|
    .answered (c := .report 2 true) 0 () (.done _)
  have hspare : ∀ c ∈ candidates, ∀ request, (c.client request).Only Call.SparesPool := by
    simp [candidates, candidate, askModel, call, Only, Call.SparesPool]
  have hmodels : candidates ≠ [] := List.cons_ne_nil _ _
  obtain ⟨failed, c, -, -, -, -, -, houtcome, -, hreports⟩ :=
    (fails_over hmodels [failing 1, failing 2, failing 3] 4 called).2 _ _ (horder ▸ hends)
  exact ⟨horder, rfl, by decide, _, failed, c, hends, rfl, (hreports hspare).symm, houtcome⟩

end Failover

/-! ## Deployments -/

namespace Retry

/-- A client that repeats calls does what the other client does, and waits. -/
lemma only_client {C : Call → Prop} {c : RetryConfig} {jitter : Jitter} {inner : ModelClient}
    {request : ModelRequest} (hwait : ∀ ms, C (.wait ms)) (hinner : (inner request).Only C) :
    (client c jitter inner request).Only C := by
  have hfrom : ∀ left attempt, (callFrom c jitter inner request left attempt).Only C := by
    intro left
    induction left with
    | zero => exact fun _ => hinner
    | succ left ih =>
        intro attempt
        rw [callFrom_succ]
        refine hinner.bind fun outcome => ?_
        cases outcome with
        | ok s => exact trivial
        | error e =>
            dsimp only
            split_ifs
            · exact Only.bind ⟨hwait _, fun _ _ => trivial⟩ fun _ => ih _
            · exact trivial
  exact hfrom c.maxRetries 0

end Retry

/-- A client for chat completions exchanges messages. -/
lemma Completion.only_client {C : Call → Prop} {request : ModelRequest}
    (hexchange : ∀ sent, C (.exchange sent)) : (Completion.client request).Only C := by
  rw [Completion.client, Http.send]
  refine Only.bind ?_ fun outcome => ?_
  · cases (draft request).build with
    | error wording => exact trivial
    | ok sent =>
        refine Only.bind (p := Activity.exchange sent) ⟨hexchange sent, fun _ _ => trivial⟩ ?_
        rintro (response | _) <;> exact trivial
  · cases outcome <;> exact trivial

/-- The client of one model leaves the pool alone. -/
lemma Provider.sparesPool_of_clientFor {jitter : Retry.Jitter} {m : ModelConfig}
    {client : ModelClient} (h : Provider.clientFor jitter m = .ok client) (request : ModelRequest) :
    (client request).Only Call.SparesPool := by
  rw [Provider.clientFor] at h
  split_ifs at h
  cases h
  exact Retry.only_client (fun _ => trivial) (Completion.only_client fun _ => trivial)

namespace Settings

variable {s : Settings} {jitter : Retry.Jitter} {client : ModelClient}

/-- The models with their clients, which leave the pool alone. -/
lemma candidates_of_mapM {models : List ModelConfig} :
    ∀ {clients : List ModelClient}, models.mapM (Provider.clientFor jitter) = .ok clients →
      (models.zipWith Candidate.mk clients).map Candidate.config = models ∧
        ∀ c ∈ models.zipWith Candidate.mk clients, ∀ request,
          (c.client request).Only Call.SparesPool := by
  induction models with
  | nil => simp
  | cons m models ih =>
      intro clients h
      rw [List.mapM_cons] at h
      cases hm : Provider.clientFor jitter m with
      | error e =>
          rw [hm] at h
          cases h
      | ok client =>
          cases hrest : models.mapM (Provider.clientFor jitter) with
          | error e =>
              rw [hm, hrest] at h
              cases h
          | ok rest =>
              rw [hm, hrest] at h
              cases h
              obtain ⟨hconfigs, hspare⟩ := ih hrest
              exact ⟨congrArg (m :: ·) hconfigs, List.forall_mem_cons.mpr
                ⟨Provider.sparesPool_of_clientFor hm, hspare⟩⟩

/-- **The client of a deployment with fallbacks** is one for several models, which leave the pool
alone. -/
theorem exists_candidates_of_client (h : s.client jitter = .ok client)
    (hfallbacks : s.fallbackModels ≠ []) :
    ∃ candidates, client = Failover.client candidates ∧
      candidates.map Candidate.config = s.models ∧
      ∀ c ∈ candidates, ∀ request, (c.client request).Only Call.SparesPool := by
  rw [Settings.client] at h
  cases hclients : s.models.mapM (Provider.clientFor jitter) with
  | error e =>
      rw [hclients] at h
      cases h
  | ok clients =>
      rw [hclients] at h
      dsimp only [Bind.bind, Except.bind] at h
      obtain ⟨hconfigs, hspare⟩ := candidates_of_mapM hclients
      generalize s.models.zipWith Candidate.mk clients = candidates at *
      refine ⟨candidates, ?_, hconfigs, hspare⟩
      have hlength := congrArg List.length hconfigs
      have hpos := List.length_pos_of_ne_nil hfallbacks
      rw [List.length_map, models, List.length_cons] at hlength
      rcases candidates with _ | ⟨first, _ | ⟨second, rest⟩⟩
      · rw [List.length_nil] at hlength
        omega
      · rw [List.length_singleton] at hlength
        omega
      · exact (Except.ok.inj h).symm

end Settings

end Blockflow
