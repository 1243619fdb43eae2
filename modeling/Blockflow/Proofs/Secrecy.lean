import Blockflow.Proofs.Invoker
import Blockflow.Proofs.Table
import Blockflow.Proofs.Work
import Blockflow.Proofs.Workshop
import Blockflow.Rehearsal

/-!
# What a run keeps to itself

A run is told two things that are nobody's business: the keys of its input that belong to the
engine, among them the user it works for, and the contents of credentials.  They reach the look-up
of credentials and the tools, and nothing else.  So take two runs that differ only in them, and in
which tools and models come to the same where they are asked the same.  Whatever happens, the two
look the same: the books, the updates, the questions to models and the arguments of tools.

* `Invoker.Parallel` — invokers whose tools come to the same.
* `Workshop.Alike`, **`Workshop.Alike.after`** — workshops that look the same stay so.
* `Tool.noting` — a tool that notes what it is used for.
* **`Engine.indistinct_launch`** — runs that differ only in what they keep to themselves.
-/

namespace Blockflow

/-! ## Tools that serve two users -/

namespace Invoker

variable {same : Correspondence} {i i' : Invoker} {user user' : Option String}

/-- Invokers that have credentials for the same integrations give a tool one or none, or miss the
same one. -/
lemma credentialFor_agree
    (h : ∀ integration, (i.lookup? user integration).isSome = (i'.lookup? user' integration).isSome)
    (tool : Tool) :
    (∃ failure, i.credentialFor tool user = .error failure ∧
        i'.credentialFor tool user' = .error failure) ∨
      ∃ c c', i.credentialFor tool user = .ok c ∧ i'.credentialFor tool user' = .ok c' ∧
        c.isSome = c'.isSome := by
  cases hintegration : integrationOf tool with
  | none =>
      exact .inr ⟨none, none, credentialFor_of_none hintegration i user,
        credentialFor_of_none hintegration i' user', rfl⟩
  | some integration =>
      rw [credentialFor_of_some hintegration, credentialFor_of_some hintegration]
      have hsome := h integration
      cases hc : i.lookup? user integration with
      | none =>
          rw [hc, Option.isSome_none] at hsome
          rw [Option.isNone_iff_eq_none.mp (Option.isSome_eq_false_iff.mp hsome.symm)]
          exact .inl ⟨_, rfl, rfl⟩
      | some c =>
          rw [hc, Option.isSome_some] at hsome
          obtain ⟨c', hc'⟩ := Option.isSome_iff_exists.mp hsome.symm
          rw [hc']
          exact .inr ⟨_, _, rfl, rfl, rfl⟩

/-- Credentials that such invokers give are given by both. -/
lemma isSome_of_agree
    (h : ∀ integration, (i.lookup? user integration).isSome = (i'.lookup? user' integration).isSome)
    {tool : Tool} {c c' : Option Credential} (hc : i.credentialFor tool user = .ok c)
    (hc' : i'.credentialFor tool user' = .ok c') : c.isSome = c'.isSome := by
  rcases credentialFor_agree h tool with ⟨failure, hf, -⟩ | ⟨d, d', hd, hd', hsome⟩
  · exact absurd (hf.symm.trans hc) nofun
  · cases hd.symm.trans hc
    cases hd'.symm.trans hc'
    exact hsome

/-- **Invokers whose tools come to the same**: they have credentials for the same integrations,
and a tool that is used with the same arguments does the same with either's. -/
structure Parallel (same : Correspondence) (i i' : Invoker) (user user' : Option String) :
    Prop where
  toolbox : i'.toolbox = i.toolbox
  named : user.isSome = user'.isSome
  credential : ∀ integration,
    (i.lookup? user integration).isSome = (i'.lookup? user' integration).isSome
  tools : ∀ name tool, i.toolbox.get? name = some tool →
    ∀ input executionId blockId credential credential',
      i.credentialFor tool user = .ok credential → i'.credentialFor tool user' = .ok credential' →
      Activity.Alike same (tool.run input ⟨executionId, blockId, user, credential⟩)
        (tool.run input ⟨executionId, blockId, user', credential'⟩)

/-- **What is invoked looks the same.** -/
lemma Parallel.related (h : Parallel same i i' user user') :
    Related (Activity.Alike same) i i' user user' where
  definitions := by rw [h.toolbox]
  invoke name arguments executionId blockId := by
    have hcongr := Activity.congruence_alike same
    rw [invoke, invoke, h.toolbox]
    cases hget : i.toolbox.get? name with
    | none => exact .done _
    | some tool =>
        dsimp only
        rcases credentialFor_agree h.credential tool with ⟨failure, hc, hc'⟩ | ⟨c, c', hc, hc', -⟩
        · rw [hc, hc']
          exact .done _
        · rw [hc, hc']
          refine hcongr.bind ?_ fun result => .done _
          rw [Toolbox.execute, Toolbox.execute, hget]
          refine hcongr.bind (hcongr.timeout _ (h.tools name tool hget _ _ _ c c' hc hc'))
            fun result => ?_
          split <;> exact .done _

end Invoker

/-! ## Workshops that look the same -/

variable {same : Correspondence}

/-- Answers to all calls that show the same to calls that show the same. -/
def RepliesAlike (same : Correspondence) (reply reply' : (c : Call) → c.Answer) : Prop :=
  ∀ c c', c.Alike c' → Call.AnswersAlike same c c' (reply c) (reply' c')

/-- **Events that look the same**: the same event, with answers that show the same. -/
inductive WorkEvent.Alike (same : Correspondence) : WorkEvent → WorkEvent → Prop
  | answers (block ms : Nat) {reply reply' : (c : Call) → c.Answer}
    (h : RepliesAlike same reply reply') :
    Alike same (.answers block ms reply) (.answers block ms reply')
  | other (e : WorkEvent) (h : ∀ block ms reply, e ≠ .answers block ms reply) : Alike same e e

namespace Activity.Alike

variable {α : Type} {p p' : Activity α}

lemma pending? (h : Alike same p p') : Option.Rel Call.Alike p.pending? p'.pending? := by
  cases h with
  | done => exact .none
  | ask call => exact .some call
  | askWithin call => exact .some call

lemma hear (h : Alike same p p') (ms : Nat) {reply reply' : (c : Call) → c.Answer}
    (hreply : RepliesAlike same reply reply') :
    Alike same (p.hear ms reply) (p'.hear ms reply') := by
  cases h with
  | done a => exact .done a
  | ask call step => exact step ms _ _ (hreply _ _ call)
  | askWithin call _ step => exact step ms _ _ (hreply _ _ call)

lemma late? (h : Alike same p p') : Option.Rel (Alike same) p.late? p'.late? := by
  cases h with
  | done => exact .none
  | ask => exact .none
  | askWithin _ tired => exact .some tired

lemma value? (h : Alike same p p') : p'.value? = p.value? := by
  cases h <;> rfl

end Activity.Alike

namespace Workshop

variable {f f' : ScheduleFrame} {w w' : Workshop}

/-- **Workshops that look the same**: the same run, desks that look alike, and calls that show the
same. -/
structure Alike (same : Correspondence) (w w' : Workshop) : Prop where
  run : w'.run = w.run
  desks : ∀ i, Option.Rel (Activity.Alike same) (w.desks i) (w'.desks i)
  asked : List.Forall₂ (fun x x' => x.1 = x'.1 ∧ x.2.Alike x'.2) w.asked w'.asked

namespace Alike

lemma opened (r : Run) : Alike same (opened r) (opened r) := ⟨rfl, fun _ => .none, .nil⟩

lemma place (h : Alike same w w') {p p' : Activity BlockEnd} (hp : Activity.Alike same p p')
    (i : Nat) : Alike same (w.place i p) (w'.place i p') := by
  refine ⟨h.run, fun j => ?_, ?_⟩
  · by_cases hj : j = i
    · subst hj
      simp only [Workshop.place, Function.update_self]
      exact .some hp
    · simp only [Workshop.place, Function.update_of_ne hj]
      exact h.desks j
  · have hcall := hp.pending?
    simp only [Workshop.place]
    refine List.rel_append h.asked ?_
    generalize p.pending? = c, p'.pending? = c' at hcall
    cases hcall with
    | some hcall => exact .cons ⟨rfl, hcall⟩ .nil
    | none => exact .nil

lemma book (h : Alike same w w') (hsetup : f'.setup = f.setup) (event : RunEvent) :
    Alike same (w.book f event) (w'.book f' event) :=
  ⟨by simp only [Workshop.book, h.run, hsetup], h.desks, h.asked⟩

lemma atDesk (h : Alike same w w') (i : Nat) {act act' : Activity BlockEnd → Workshop}
    (hact : ∀ p p', Activity.Alike same p p' → Alike same (act p) (act' p')) :
    Alike same (w.atDesk i act) (w'.atDesk i act') := by
  have hdesk := h.desks i
  rw [Workshop.atDesk, Workshop.atDesk, h.run]
  generalize w.desks i = d, w'.desks i = d' at hdesk
  cases hdesk with
  | none => exact h
  | some hp =>
      dsimp only
      split_ifs
      · exact hact _ _ hp
      · exact h

lemma answer (h : Alike same w w') (i ms : Nat) {reply reply' : (c : Call) → c.Answer}
    (hreply : RepliesAlike same reply reply') {p p' : Activity BlockEnd}
    (hp : Activity.Alike same p p') :
    Alike same (w.answer i ms reply p) (w'.answer i ms reply' p') := by
  have hcall := hp.pending?
  rw [Workshop.answer, Workshop.answer]
  generalize p.pending? = c, p'.pending? = c' at hcall
  cases hcall with
  | none => exact h
  | @some c c' _ =>
      have hheard : Alike same { w with heard := w.heard ++ [(i, ⟨c, reply c⟩)] }
          { w' with heard := w'.heard ++ [(i, ⟨c', reply' c'⟩)] } := ⟨h.run, h.desks, h.asked⟩
      exact hheard.place (hp.hear ms hreply) i

/-- **An event keeps workshops looking the same**, if the work on every block does. -/
lemma step (h : Alike same w w') (hsetup : f'.setup = f.setup)
    (hwork : ∀ r i, Activity.Alike same (f.workIn r i) (f'.workIn r i)) {e e' : WorkEvent}
    (he : e.Alike same e') : Alike same (w.step f e) (w'.step f' e') := by
  cases he with
  | answers i ms hreply => exact h.atDesk i fun p p' => h.answer i ms hreply
  | other e hother =>
      cases e with
      | begins i =>
          -- a desk is empty in both workshops or in neither
          have hdesk := h.desks i
          have hnone : w'.desks i = none ↔ w.desks i = none := by
            generalize w.desks i = d, w'.desks i = d' at hdesk
            cases hdesk <;> simp
          simp only [Workshop.step, h.run, hnone]
          split_ifs
          · exact h.place (hwork _ _) i
          · exact h
      | answers i ms reply => exact absurd rfl (hother i ms reply)
      | tires i =>
          refine h.atDesk i fun p p' hp => ?_
          have hlate := hp.late?
          generalize p.late? = q, p'.late? = q' at hlate
          cases hlate with
          | none => exact h
          | some hq => exact h.place hq i
      | returns i =>
          refine h.atDesk i fun p p' hp => ?_
          rw [hp.value?]
          cases p.value? with
          | none => exact h
          | some e =>
              have hbook := h.book hsetup (.returns i e)
              exact ⟨hbook.run, hbook.desks, hbook.asked⟩
      | stops i =>
          simp only [Workshop.step, h.run]
          split_ifs
          · exact h.book hsetup _
          · exact h
      | books event =>
          rw [Workshop.step, Workshop.step]
          split_ifs
          · exact h
          · exact h.book hsetup event

/-- **Whatever happens, workshops that look the same stay so.** -/
theorem after (hsetup : f'.setup = f.setup)
    (hwork : ∀ r i, Activity.Alike same (f.workIn r i) (f'.workIn r i)) {events events'}
    (hevents : List.Forall₂ (WorkEvent.Alike same) events events') (h : Alike same w w') :
    Alike same (w.after f events) (w'.after f' events') := by
  induction hevents generalizing w w' with
  | nil => exact h
  | cons he _ ih => exact ih (h.step hsetup hwork he)

/-- What does not tell calls apart that show the same is the same of all calls. -/
lemma filterMap_asked (h : Alike same w w') {β : Type} (g : Nat × Call → Option β)
    (hg : ∀ i c c', c.Alike c' → g (i, c) = g (i, c')) :
    w'.asked.filterMap g = w.asked.filterMap g := by
  have hasked := h.asked
  generalize w.asked = l, w'.asked = l' at hasked ⊢
  induction hasked with
  | nil => rfl
  | @cons x x' _ _ hx _ ih =>
      obtain ⟨i, c⟩ := x
      obtain ⟨i', c'⟩ := x'
      obtain ⟨rfl, hc⟩ := hx
      rw [List.filterMap_cons, List.filterMap_cons, hg i c c' hc, ih]

/-- Models were asked the same. -/
lemma modelRequests (h : Alike same w w') : w'.modelRequests = w.modelRequests := by
  refine h.filterMap_asked _ fun i c c' hc => ?_
  cases hc <;> rfl

/-- Tools were used for the same. -/
lemma toolUses (h : Alike same w w') : w'.toolUses = w.toolUses := by
  refine h.filterMap_asked _ fun i c c' hc => ?_
  cases hc with
  | refl => rfl
  | note tool input => simp only [tool, input]
  | exchange => rfl

end Alike

end Workshop

/-! ## Tools that note what they are used for -/

/-- A tool that notes every use of it. -/
def Tool.noting (tool : Tool) : Tool :=
  { tool with
    run := fun input context => do
      Activity.note ⟨tool.name, input, context⟩
      tool.run input context }

/-- An invoker whose tools note every use of them. -/
def Invoker.noting (i : Invoker) : Invoker :=
  { i with toolbox := Table.mapValues Tool.noting i.toolbox }

/-- Model blocks whose tools note every use of them. -/
def ModelBlocks.noting (shared : ModelBlocks) : ModelBlocks :=
  { shared with invoker := shared.invoker.noting }

lemma Invoker.Parallel.noting {i i' : Invoker} {user user' : Option String}
    (h : Parallel same i i' user user') : Parallel same i.noting i'.noting user user' where
  toolbox := by rw [Invoker.noting, Invoker.noting, h.toolbox]
  named := h.named
  credential := h.credential
  tools name tool hget input executionId blockId credential credential' hc hc' := by
    rw [Invoker.noting, Toolbox.get?, Table.get?_mapValues, Option.map_eq_some_iff] at hget
    obtain ⟨tool, hget, rfl⟩ := hget
    have hnote : (Call.note ⟨tool.name, input, ⟨executionId, blockId, user, credential⟩⟩).Alike
        (.note ⟨tool.name, input, ⟨executionId, blockId, user', credential'⟩⟩) :=
      .note rfl rfl ⟨rfl, rfl, h.named, Invoker.isSome_of_agree h.credential hc hc'⟩
    exact .ask hnote fun _ _ _ _ => h.tools name tool hget input executionId blockId _ _ hc hc'

/-! ## Runs that keep something to themselves -/

/-- Inputs that agree on the keys that do not belong to the engine. -/
lemma stripReserved_congr {input input' : Json.Object} (hsorted : Table.Sorted input)
    (hsorted' : Table.Sorted input')
    (hvisible : ∀ key, isReserved key = false → Table.get? input key = Table.get? input' key) :
    stripReserved input = stripReserved input' := by
  refine Table.Sorted.ext (hsorted.filter _) (hsorted'.filter _) fun key => ?_
  rw [stripReserved, stripReserved, Table.get?_filter (fun k => !isReserved k),
    Table.get?_filter (fun k => !isReserved k)]
  cases hkey : isReserved key with
  | true => rfl
  | false => exact hvisible key hkey

namespace Engine

/-- The user that the input of a run names. -/
def userOf (input : Json.Object) : Option String := (Table.get? input userIdKey).bind Json.asText?

/-- **Launches that nobody can tell apart**: they are refused for the same reason, or whatever
happens and as long as what is answered shows the same, the runs are the same, to their last
updates and their results, and so are the questions to models and the noted uses of tools. -/
def Indistinct (same : Correspondence) :
    (launched launched' : Except Error (ScheduleFrame × Schedule)) → Prop
  | .error failure, .error failure' => failure' = failure
  | .ok (f, s), .ok (f', s') =>
    ∀ events events', List.Forall₂ (WorkEvent.Alike same) events events' →
      let w := (Workshop.opened s.run).after f events
      let w' := (Workshop.opened s'.run).after f' events'
      w'.run = w.run ∧ w'.run.close f'.setup = w.run.close f.setup ∧
        w'.run.conclude f'.setup = w.run.conclude f.setup ∧
        w'.modelRequests = w.modelRequests ∧ w'.toolUses = w.toolUses
  | _, _ => False

variable {shared : ModelBlocks} {i' : Invoker} {input input' : Json.Object}

/-- The work on every block looks the same. -/
lemma alike_workIn (hsame : same.Functional) {user user' : Option String}
    (hparallel : shared.invoker.Parallel same i' user user') (checker : Option Checker)
    (config : EngineConfig) (options : ExecutionOptions) (setup : RunSetup) (r : Run) (i : Nat) :
    Activity.Alike same
      (ScheduleFrame.workIn ⟨standard shared checker config, options, setup, user⟩ r i)
      (ScheduleFrame.workIn
        ⟨standard { shared with invoker := i' } checker config, options, setup, user'⟩ r i) :=
  related_work (Activity.congruence_alike same)
    (fun request => Activity.Alike.refl hsame (shared.client request))
    (fun c _ request => Activity.Alike.refl hsame (c.client request)) hparallel.related options
    (setup.block i) (r.cell i).state.inputs ⟨setup.executionId, (setup.block i).id, user, false⟩ rfl

lemma indistinct_of_workIn {f f' : ScheduleFrame} {s s' : Schedule} (hsetup : f'.setup = f.setup)
    (hrun : s'.run = s.run)
    (hwork : ∀ r i, Activity.Alike same (f.workIn r i) (f'.workIn r i)) :
    Indistinct same (.ok (f, s)) (.ok (f', s')) := by
  intro events events' hevents w w'
  have hopened : Workshop.Alike same (.opened s.run) (.opened s'.run) := by
    rw [hrun]
    exact .opened _
  have halike : Workshop.Alike same w w' := hopened.after hsetup hwork hevents
  rw [halike.run, hsetup]
  exact ⟨rfl, rfl, rfl, halike.modelRequests, halike.toolUses⟩

/-- Launches of engines whose tools come to the same. -/
lemma indistinct_of_parallel (hsame : same.Functional)
    (htrigger : stripReserved input = stripReserved input')
    (hparallel : shared.invoker.Parallel same i' (userOf input) (userOf input'))
    (checker : Option Checker) (config : EngineConfig) (w : Workflow)
    (options : ExecutionOptions) (listener : Listener) (cancelled : Bool) (world : World) :
    Indistinct same
      ((standard shared checker config).launch w input options listener cancelled world)
      ((standard { shared with invoker := i' } checker config).launch w input' options listener
        cancelled world) := by
  rw [launch, launch, validate_standard, validate_standard]
  cases Plan.build w with
  | error failure => exact rfl
  | ok plan =>
      rw [← htrigger]
      refine indistinct_of_workIn rfl rfl ?_
      exact alike_workIn hsame hparallel checker config options _

/-- **A run keeps to itself what belongs to the engine and what is in credentials.**  Two runs of a
workflow whose inputs agree on all other keys and that both name a user or both name none, with
credentials for the same integrations, cannot be told apart as long as tools and models that are
asked the same come to the same; nor can they if every tool notes what it is used for. -/
theorem indistinct_launch {same : Correspondence} (hsame : same.Functional)
    {shared : ModelBlocks} {credentials' : Option Credentials} {input input' : Json.Object}
    (hsorted : Table.Sorted input) (hsorted' : Table.Sorted input')
    (hvisible : ∀ key, isReserved key = false → Table.get? input key = Table.get? input' key)
    (hparallel : shared.invoker.Parallel same
      { shared.invoker with credentials := credentials' } (userOf input) (userOf input'))
    (checker : Option Checker) (config : EngineConfig) (w : Workflow)
    (options : ExecutionOptions) (listener : Listener) (cancelled : Bool) (world : World) :
    let shared' :=
      { shared with invoker := { shared.invoker with credentials := credentials' } }
    Indistinct same
        ((standard shared checker config).launch w input options listener cancelled world)
        ((standard shared' checker config).launch w input' options listener cancelled world) ∧
      Indistinct same
        ((standard shared.noting checker config).launch w input options listener cancelled world)
        ((standard shared'.noting checker config).launch w input' options listener cancelled
          world) := by
  have htrigger := stripReserved_congr hsorted hsorted' hvisible
  have hnoting : shared.noting.invoker.Parallel same
      { shared.noting.invoker with credentials := credentials' } (userOf input)
      (userOf input') := hparallel.noting
  exact ⟨indistinct_of_parallel hsame htrigger hparallel checker config w options listener
      cancelled world,
    indistinct_of_parallel hsame htrigger hnoting checker config w options listener cancelled
      world⟩

/-- Two users of a tool that needs a credential: one input has another reserved key, and the
credentials differ in everything but their integration. -/
theorem indistinct_launch_mailing :
    let shared : ModelBlocks :=
      { client := Activity.askModel .worker
        model := { modelId := "small" }
        invoker :=
          { toolbox := [("mail", .recording "mail" (some "smtp") "sent")]
            credentials := some (.stored
              [⟨"ann", ⟨"smtp", "work", [("password", .text "hush")]⟩⟩]) } }
    let credentials' : Option Credentials := some (.stored [⟨"bob", ⟨"smtp", "", []⟩⟩])
    let input : Json.Object := [(userIdKey, .text "ann"), ("to", .text "all")]
    let input' : Json.Object :=
      [("__trace__", .text "7"), (userIdKey, .text "bob"), ("to", .text "all")]
    let w : Workflow :=
      { blocks :=
          [{ id := "a", normalizedId := "a", config := .codeBlock { toolName := "mail" } }] }
    Correspondence.equal.Functional ∧ Table.Sorted input ∧ Table.Sorted input' ∧
      (∀ key, isReserved key = false → Table.get? input key = Table.get? input' key) ∧
      shared.invoker.Parallel .equal { shared.invoker with credentials := credentials' }
        (userOf input) (userOf input') ∧
      Plan.build w = .ok ⟨1, [], [0]⟩ ∧
      Indistinct .equal
        ((standard shared.noting none {}).launch w input {} {} false {})
        ((standard (ModelBlocks.noting { shared with
            invoker := { shared.invoker with credentials := credentials' } }) none {}).launch w
          input' {} {} false {}) := by
  intro shared credentials' input input' w
  have hsorted : Table.Sorted input := by decide
  have hsorted' : Table.Sorted input' := by decide
  have hvisible : ∀ key, isReserved key = false → Table.get? input key = Table.get? input' key := by
    intro key hkey
    have hne : ∀ k, isReserved k = true → k ≠ key := by
      rintro k hk rfl
      exact absurd (hk.symm.trans hkey) nofun
    simp only [input, input', Table.get?]
    rw [if_neg (hne userIdKey (by decide)), if_neg (hne "__trace__" (by decide)),
      if_neg (hne userIdKey (by decide))]
  have hparallel : shared.invoker.Parallel .equal
      { shared.invoker with credentials := credentials' } (userOf input) (userOf input') := by
    have hcredential : ∀ integration,
        (shared.invoker.lookup? (userOf input) integration).isSome =
          (Invoker.lookup? { shared.invoker with credentials := credentials' } (userOf input')
            integration).isSome := by
      intro integration
      by_cases h : "smtp" = integration <;>
        simp [shared, credentials', input, input', userOf, Table.get?, userIdKey, Json.asText?,
          Invoker.lookup?, Credentials.resolve, h]
    refine ⟨rfl, by decide, hcredential, ?_⟩
    intro name tool hget input executionId blockId c c' hc hc'
    have htool : tool = .recording "mail" (some "smtp") "sent" := by
      rw [Toolbox.get?, Table.get?] at hget
      split_ifs at hget
      · exact (Option.some.inj hget).symm
      · cases hget
    subst htool
    have hnote : (Call.note ⟨"mail", input, ⟨executionId, blockId, some "ann", c⟩⟩).Alike
        (.note ⟨"mail", input, ⟨executionId, blockId, some "bob", c'⟩⟩) :=
      .note rfl rfl ⟨rfl, rfl, rfl, Invoker.isSome_of_agree hcredential hc hc'⟩
    exact .ask hnote fun _ _ _ _ => .done _
  exact ⟨Correspondence.functional_equal, hsorted, hsorted', hvisible, hparallel, rfl,
    (indistinct_launch Correspondence.functional_equal hsorted hsorted' hvisible hparallel none {} w
      {} {} false {}).2⟩

end Engine

end Blockflow
