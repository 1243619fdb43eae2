import Blockflow.Block.Variable
import Blockflow.Proofs.Gateway.Preparation
import Blockflow.Proofs.Plan

/-!
# The daily limit

A gateway lets in so many runs of a user a day.  The limiter keeps one count per user, of the last
day on which the user came, and looks at it before anything else can speak against a run; the run
is counted last.  As long as days do not go back, the count is the number of runs that were let in,
so a visit is turned away by the limit exactly when the limit is used up, and is answered otherwise
as if there were no limit.

* `Gateway.Visit`, `Gateway.letIn`, `Gateway.log` — requests that reach a gateway one after another.
* `Gateway.letIn_eq` — what a limiter that works makes of a visit.
* `Limiter.Tallies` — the counts are those of the visits so far; **`Limiter.Tallies.letIn`**: one
  visit keeps them so.
* **`Gateway.daily_limit`** — any visits.
-/

namespace Blockflow

/-! ## Errors of the limiter -/

/-- The engine refuses a workflow for its shape or for a kind of block. -/
lemma Engine.validate_error_kind {e : Engine} {w : Workflow} {failure : Error}
    (h : e.validate w = .error failure) : failure.kind.isValidation = true := by
  have hblocks : ∀ blocks : List Block, (forIn blocks PUnit.unit fun b _ => do
      discard (e.executors.find b.type)
      pure (ForInStep.yield PUnit.unit)) = (.error failure : Except Error PUnit) →
      failure.kind = .unknownBlockType := by
    intro blocks
    induction blocks with
    | nil => intro h; cases h
    | cons b blocks ih =>
        intro h
        rw [List.forIn_cons] at h
        cases hfind : e.executors.find b.type with
        | error found =>
            rw [hfind] at h
            cases h
            unfold Executors.find at hfind
            split at hfind
            · cases hfind
            · cases hfind
              rfl
        | ok x =>
            rw [hfind] at h
            exact ih h
  rw [validate] at h
  cases hbuild : Plan.build w with
  | error found =>
      rw [hbuild] at h
      cases h
      rw [Plan.build_error_kind hbuild]
      rfl
  | ok plan =>
      rw [hbuild] at h
      simp only [bind, Except.bind] at h
      split at h
      · next found hloop =>
          cases h
          rw [hblocks w.blocks hloop]
          rfl
      · cases h

/-- A stored agent is not read back where its workflow is not. -/
lemma AgentRow.agent_error_kind {row : AgentRow} {failure : Error}
    (h : row.agent = .error failure) : failure.kind = .internal := by
  unfold AgentRow.agent kept? kept at h
  split at h
  · cases h
  · next source _ =>
      cases hread : Workflow.codec.ofText source with
      | ok w =>
          rw [hread] at h
          cases h
      | error e =>
          rw [hread] at h
          cases h
          rfl

namespace Gateway

variable {g : Gateway} {s : GatewayState} {o : Outages} {now : Timestamp} {id : String}
  {r : RunRequest} {failure : Error}

/-- An agent that is not found is no matter of the limiter. -/
lemma agent_error_kind (hlookup : ∀ e ∈ o.lookup, e.kind ≠ .limiter) {userId : String}
    (h : g.agent s o id userId = .error failure) : failure.kind ≠ .limiter := by
  unfold agent at h
  split at h
  · next e hfound =>
      cases h
      exact hlookup _ hfound
  · split at h
    · cases h
    · cases h
      exact nofun
  · unfold Store.getAgent at h
    split at h
    · rw [AgentRow.agent_error_kind h]
      exact nofun
    · cases h
      exact nofun

/-- What speaks against a run beside the limit is no matter of the limiter. -/
lemma vet_error_kind (hlookup : ∀ e ∈ o.lookup, e.kind ≠ .limiter)
    (hopen : isExhausted s o r.userId now.day = false) (h : g.vet s o now r = .error failure) :
    failure.kind ≠ .limiter := by
  rw [vet, hopen, if_neg Bool.false_ne_true] at h
  cases hagent : g.agent s o r.agentId r.userId with
  | error e =>
      rw [hagent] at h
      cases h
      exact agent_error_kind hlookup hagent
  | ok agent =>
      rw [hagent] at h
      simp only [bind, Except.bind] at h
      split at h
      · cases h
        decide
      · next w _ =>
          cases hvalidate : g.engine.validate w with
          | ok plan =>
              rw [hvalidate] at h
              cases h
          | error e =>
              rw [hvalidate] at h
              cases h
              have hkind := Engine.validate_error_kind hvalidate
              rintro heq
              rw [heq] at hkind
              cases hkind

/-! ## Visits -/

/-- A request that reaches a gateway: when, under which identifier it would run, what the store
holds by then, and which services are out of order. -/
structure Visit where
  request : RunRequest
  now : Timestamp
  id : String
  store : Store := {}
  outages : Outages := {}

/-- The limiter works; a failure of another service is not taken for one of it. -/
structure Visit.Limited (v : Visit) : Prop where
  limit : v.outages.limit = none
  count : v.outages.count = none
  lookup : ∀ e ∈ v.outages.lookup, e.kind ≠ .limiter

/-- The limiter after a visit, and what the visit is answered. -/
def letIn (g : Gateway) (l : Limiter) (v : Visit) : Limiter × Except Error PreparedRun :=
  let r := g.prepare ⟨v.store, l⟩ v.outages v.now v.id v.request
  (r.1.limiter, r.2)

/-- Visits one after another, each with its answer. -/
def log (g : Gateway) : Limiter → List Visit → List (Visit × Except Error PreparedRun)
  | _, [] => []
  | l, v :: vs => (v, (g.letIn l v).2) :: g.log (g.letIn l v).1 vs

/-- How many visits of a user on a day were let in. -/
def admitted (user : String) (day : Int) (past : List (Visit × Except Error PreparedRun)) : Nat :=
  past.countP fun x => x.1.request.userId = user && x.1.now.day = day && x.2.isOk

variable {l : Limiter} {v : Visit}

/-- Below the limit, a visit finds what it would find without one. -/
lemma vet_eq_of_open {l l' : Limiter} {store : Store}
    (hopen : isExhausted ⟨store, l⟩ o r.userId now.day = false)
    (hopen' : isExhausted ⟨store, l'⟩ o r.userId now.day = false) :
    g.vet ⟨store, l⟩ o now r = g.vet ⟨store, l'⟩ o now r := by
  rw [vet, vet, hopen, hopen']
  rfl

/-- **A visit is turned away by a limit that is used up**; else it is answered as without a limit,
and counts if it is let in. -/
lemma letIn_eq (hv : v.Limited) :
    g.letIn l v =
      if l.remaining v.request.userId v.now.day = 0 then
        (l, .error (.limiter "daily execution limit reached"))
      else
        (if (g.letIn {} v).2.isOk then l.increment v.request.userId v.now.day else l,
          (g.letIn {} v).2) := by
  have hexhausted : ∀ l : Limiter, isExhausted ⟨v.store, l⟩ v.outages v.request.userId v.now.day =
      decide (l.remaining v.request.userId v.now.day = 0) := by
    intro l
    simp [isExhausted, hv.limit]
  by_cases hnone : l.remaining v.request.userId v.now.day = 0
  · have hvet : g.vet ⟨v.store, l⟩ v.outages v.now v.request =
        .error (.limiter "daily execution limit reached") := by
      rw [vet, if_pos ((hexhausted l).trans (decide_eq_true hnone))]
    rw [if_pos hnone, letIn, prepare, hvet]
  · have hvet : g.vet ⟨v.store, l⟩ v.outages v.now v.request =
        g.vet ⟨v.store, {}⟩ v.outages v.now v.request :=
      vet_eq_of_open ((hexhausted l).trans (decide_eq_false hnone)) (hexhausted {})
    rw [if_neg hnone]
    unfold letIn prepare
    rw [hvet]
    split
    · rfl
    · simp [count, hv.count, Except.isOk, Except.toBool]

/-- Without a limit nothing is turned away by it. -/
lemma letIn_unlimited_error_kind (hv : v.Limited) (h : (g.letIn {} v).2 = .error failure) :
    failure.kind ≠ .limiter := by
  unfold letIn prepare at h
  split at h
  · next e hvet =>
      cases h
      exact vet_error_kind hv.lookup (by simp [isExhausted, Limiter.remaining]) hvet
  · cases h

end Gateway

/-! ## Counting -/

open Gateway

namespace Limiter

/-- **The counts are those of the visits so far**, on any day that none of them is behind, and
nobody was let in more often than the limit allows. -/
structure Tallies (l : Limiter) (m : Int) (past : List (Visit × Except Error PreparedRun)) :
    Prop where
  limit : l.limit = m
  used : 0 ≤ m → ∀ user day, (∀ x ∈ past, x.1.now.day ≤ day) →
    l.used user day = admitted user day past
  within : 0 ≤ m → ∀ user day, (admitted user day past : Int) ≤ m

variable {l : Limiter} {m : Int} {past : List (Visit × Except Error PreparedRun)} {v : Visit}

lemma tallies_fresh (m : Int) : Tallies { limit := m } m [] where
  limit := rfl
  used _ _ _ _ := rfl
  within hm _ _ := hm

/-- The limit is used up when so many visits were let in. -/
lemma Tallies.remaining_eq_zero_iff (h : l.Tallies m past) {user : String} {day : Int}
    (hday : ∀ x ∈ past, x.1.now.day ≤ day) :
    l.remaining user day = 0 ↔ 0 ≤ m ∧ (admitted user day past : Int) = m := by
  unfold remaining
  rw [h.limit]
  by_cases hm : 0 ≤ m
  · rw [if_neg (not_lt.mpr hm), h.used hm user day hday]
    have hwithin := h.within hm user day
    omega
  · rw [if_pos (not_le.mp hm)]
    simp [hm]

/-- A counted run is one more on its day; the counts of the user's other days are given up. -/
lemma used_increment (hlimit : 0 ≤ l.limit) (user user' : String) (day day' : Int) :
    (l.increment user day).used user' day' =
      if user' = user then if day' = day then l.used user day + 1 else 0
      else l.used user' day' := by
  unfold increment
  rw [if_neg (not_lt.mpr hlimit)]
  by_cases huser : user' = user
  · subst huser
    simp [used, eq_comm]
  · simp [used, huser, Table.get?_insert_of_ne]

lemma admitted_append (user : String) (day : Int) (past : List (Visit × Except Error PreparedRun))
    (v : Visit) (answer : Except Error PreparedRun) :
    admitted user day (past ++ [(v, answer)]) =
      admitted user day past +
        if v.request.userId = user ∧ v.now.day = day ∧ answer.isOk = true then 1 else 0 := by
  simp [admitted, List.countP_append, List.countP_singleton, and_assoc]

/-- Nobody was let in on a day that has not come yet. -/
lemma admitted_eq_zero {user : String} {day : Int} (h : ∀ x ∈ past, x.1.now.day < day) :
    admitted user day past = 0 := by
  rw [admitted, List.countP_eq_zero]
  intro x hx
  have hne := (h x hx).ne
  simp [hne]

/-- What a visit is answered if so many of its user's visits were let in on its day. -/
def answerAfter (g : Gateway) (m : Int) (n : Nat) (v : Visit) : Except Error PreparedRun :=
  if 0 ≤ m ∧ (n : Int) = m then .error (.limiter "daily execution limit reached")
  else (g.letIn {} v).2

/-- A visit that is not let in does not count. -/
lemma Tallies.refused (h : l.Tallies m past) (v : Visit) {answer : Except Error PreparedRun}
    (hanswer : answer.isOk = false) : l.Tallies m (past ++ [(v, answer)]) := by
  have hsame : ∀ user day, admitted user day (past ++ [(v, answer)]) = admitted user day past := by
    intro user day
    rw [admitted_append, if_neg (by simp [hanswer]), add_zero]
  refine ⟨h.limit, fun hm user day hdays => ?_, fun hm user day => ?_⟩
  · rw [hsame]
    exact h.used hm user day fun x hx => hdays x (List.mem_append_left _ hx)
  · rw [hsame]
    exact h.within hm user day

/-- A visit that is let in below the limit counts. -/
lemma Tallies.increment (h : l.Tallies m past) (hday : ∀ x ∈ past, x.1.now.day ≤ v.now.day)
    (hopen : ¬ l.remaining v.request.userId v.now.day = 0) {answer : Except Error PreparedRun}
    (hanswer : answer.isOk = true) :
    (l.increment v.request.userId v.now.day).Tallies m (past ++ [(v, answer)]) := by
  have hadmitted : ∀ user day, admitted user day (past ++ [(v, answer)]) =
      admitted user day past + if v.request.userId = user ∧ v.now.day = day then 1 else 0 := by
    intro user day
    simp [admitted_append, hanswer]
  refine ⟨?_, fun hm user day hdays => ?_, fun hm user day => ?_⟩
  · unfold Limiter.increment
    split_ifs <;> exact h.limit
  · have hpast : ∀ x ∈ past, x.1.now.day ≤ day := fun x hx => hdays x (List.mem_append_left _ hx)
    have hnow : v.now.day ≤ day := hdays (v, answer) (by simp)
    rw [hadmitted, used_increment (h.limit ▸ hm), ← h.used hm _ _ hpast]
    by_cases huser : user = v.request.userId
    · subst huser
      by_cases hsame : day = v.now.day
      · simp [hsame]
      · -- the count of an earlier day was given up, and nobody has come on this one
        have hnone : admitted v.request.userId day past = 0 :=
          admitted_eq_zero fun x hx => (hday x hx).trans_lt (lt_of_le_of_ne hnow (Ne.symm hsame))
        simp [hsame, Ne.symm hsame, h.used hm _ _ hpast, hnone]
    · simp [huser, Ne.symm huser]
  · rw [hadmitted]
    have hwithin := h.within hm user day
    by_cases hcounts : v.request.userId = user ∧ v.now.day = day
    · obtain ⟨rfl, rfl⟩ := hcounts
      rw [h.remaining_eq_zero_iff hday] at hopen
      simp only [and_self, if_true]
      omega
    · simpa [hcounts] using hwithin

variable {g : Gateway}

/-- **One visit is answered by the number of visits before it, and keeps the counts right.** -/
theorem Tallies.letIn (h : l.Tallies m past) (hv : v.Limited)
    (hday : ∀ x ∈ past, x.1.now.day ≤ v.now.day) :
    (g.letIn l v).2 = answerAfter g m (admitted v.request.userId v.now.day past) v ∧
      (g.letIn l v).1.Tallies m (past ++ [(v, (g.letIn l v).2)]) := by
  have hreached : answerAfter g m (admitted v.request.userId v.now.day past) v =
      if l.remaining v.request.userId v.now.day = 0 then
        .error (.limiter "daily execution limit reached")
      else (g.letIn {} v).2 := if_congr (h.remaining_eq_zero_iff hday).symm rfl rfl
  rw [letIn_eq hv, hreached]
  split_ifs with hnone hok
  · exact ⟨rfl, h.refused v rfl⟩
  · exact ⟨rfl, h.increment hday hnone hok⟩
  · exact ⟨rfl, h.refused v (Bool.eq_false_iff.mpr hok)⟩

/-- Any visits are answered by the numbers of visits before them. -/
lemma Tallies.log (h : l.Tallies m past) {visits : List Visit} (hv : ∀ v ∈ visits, v.Limited)
    (hpast : ∀ x ∈ past, ∀ v ∈ visits, x.1.now.day ≤ v.now.day)
    (hdays : visits.Pairwise fun v w => v.now.day ≤ w.now.day) :
    (∀ before x after, g.log l visits = before ++ x :: after →
      x.1 ∈ visits ∧
      x.2 = answerAfter g m (admitted x.1.request.userId x.1.now.day (past ++ before)) x.1) ∧
    ∃ l' : Limiter, l'.Tallies m (past ++ g.log l visits) := by
  induction visits generalizing l past with
  | nil => exact ⟨by simp [Gateway.log], l, by simpa [Gateway.log] using h⟩
  | cons v visits ih =>
      rw [List.forall_mem_cons] at hv
      rw [List.pairwise_cons] at hdays
      obtain ⟨hanswer, hnext⟩ := h.letIn (g := g) hv.1 fun x hx => hpast x hx v List.mem_cons_self
      have hpast' : ∀ x ∈ past ++ [(v, (g.letIn l v).2)], ∀ w ∈ visits,
          x.1.now.day ≤ w.now.day := by
        intro x hx w hw
        rcases List.mem_append.mp hx with hx | hx
        · exact hpast x hx w (List.mem_cons_of_mem _ hw)
        · obtain rfl := List.mem_singleton.mp hx
          exact hdays.1 w hw
      obtain ⟨hlater, l', hl'⟩ := ih hnext hv.2 hpast' hdays.2
      rw [List.append_assoc, List.singleton_append] at hl'
      refine ⟨fun before x after heq => ?_, l', hl'⟩
      rw [Gateway.log] at heq
      cases before with
      | nil =>
          cases heq
          rw [List.append_nil]
          exact ⟨List.mem_cons_self, hanswer⟩
      | cons y before =>
          simp only [List.cons_append, List.cons.injEq] at heq
          obtain ⟨rfl, heq⟩ := heq
          obtain ⟨hmem, hx⟩ := hlater before x after heq
          rw [List.append_assoc, List.singleton_append] at hx
          exact ⟨List.mem_cons_of_mem _ hmem, hx⟩

end Limiter

/-- **At most so many visits of a user on a day are let in as the limit allows.**  While days do not
go back, a visit is turned away by the limiter exactly when the limit is not negative and so many
earlier visits of its user on its day were let in; it is answered else as if there were no limit. -/
theorem Gateway.daily_limit (g : Gateway) (m : Int) {visits : List Visit}
    (hlimited : ∀ v ∈ visits, v.Limited)
    (hdays : visits.Pairwise fun v w => v.now.day ≤ w.now.day) :
    let log := g.log { limit := m } visits
    (0 ≤ m → ∀ user day, (admitted user day log : Int) ≤ m) ∧
    ∀ before v answer after, log = before ++ (v, answer) :: after →
      let reached := 0 ≤ m ∧ (admitted v.request.userId v.now.day before : Int) = m
      ((∃ reason, answer = .error (.limiter reason)) ↔ reached) ∧
        (¬ reached → answer = (g.prepare ⟨v.store, {}⟩ v.outages v.now v.id v.request).2) := by
  obtain ⟨hanswers, l', hl'⟩ := (Limiter.tallies_fresh m).log (g := g) hlimited (by simp) hdays
  refine ⟨hl'.within, fun before v answer after hlog => ?_⟩
  obtain ⟨hmem, hanswer⟩ := hanswers before (v, answer) after hlog
  simp only [List.nil_append, Limiter.answerAfter] at hanswer
  refine ⟨⟨?_, fun hreached => ⟨_, hanswer.trans (if_pos hreached)⟩⟩,
    fun hopen => hanswer.trans (if_neg hopen)⟩
  rintro ⟨reason, rfl⟩
  by_contra hopen
  rw [if_neg hopen] at hanswer
  exact letIn_unlimited_error_kind (hlimited v hmem) hanswer.symm rfl

/-- A gateway with one agent, of Ann, whose workflow is a single variable. -/
def Gateway.modest : Gateway :=
  let notes : Workflow :=
    { blocks := [{ id := "v", normalizedId := "v", config := .variable { operation := .set } }] }
  { engine := { executors := ⟨[(.variable, VariableBlock.executor)]⟩ }
    agents := .given
      [("a", { id := "a", userId := "ann", name := "Notes", workflow := some notes })] }

/-- A visit to Ann's agent so many days after the first. -/
def Gateway.Visit.of (user : String) (days : Nat) : Visit :=
  { request := { agentId := "a", userId := user }
    now := ⟨86400 * days, 0⟩
    id := user }

/-- Ann and Bob come with a limit of one: Bob has no such agent, and Ann's second visit on the
first day is one too many. -/
theorem Gateway.daily_limit_once :
    let visits := [Visit.of "bob" 0, Visit.of "ann" 0, Visit.of "ann" 0, Visit.of "ann" 1]
    let log := modest.log { limit := 1 } visits
    (∀ v ∈ visits, v.Limited) ∧ (visits.Pairwise fun v w => v.now.day ≤ w.now.day) ∧
      log.map (fun x => x.2.isOk) = [false, true, false, true] ∧
      (∀ user day, (admitted user day log : Int) ≤ 1) ∧
      ∃ before v answer after, log = before ++ (v, answer) :: after ∧
        ∃ reason, answer = .error (.limiter reason) := by
  intro visits log
  have hlimited : ∀ v ∈ visits, v.Limited := by
    intro v hv
    simp only [visits, List.mem_cons, List.not_mem_nil, or_false] at hv
    rcases hv with rfl | rfl | rfl | rfl <;> exact ⟨rfl, rfl, nofun⟩
  have hdays : visits.Pairwise fun v w => v.now.day ≤ w.now.day := by decide
  have hlimit := daily_limit modest 1 hlimited hdays
  have hoks : log.map (fun x => x.2.isOk) = [false, true, false, true] := by decide +kernel
  have hbefore : admitted "ann" (Visit.of "ann" 0).now.day (log.take 2) = 1 := by decide +kernel
  refine ⟨hlimited, hdays, hoks, hlimit.1 (by decide), ?_⟩
  have hsplit : log = log.take 2 ++ (Visit.of "ann" 0, (modest.letIn _ (Visit.of "ann" 0)).2) ::
    log.drop 3 := rfl
  exact ⟨_, _, _, _, hsplit,
    (hlimit.2 _ _ _ _ hsplit).1.mpr ⟨by decide, congrArg Nat.cast hbefore⟩⟩

end Blockflow
