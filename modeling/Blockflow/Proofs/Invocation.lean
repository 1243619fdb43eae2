import Blockflow.Proofs.Activity.Time
import Blockflow.Proofs.Secrecy

/-!
# What comes of invoking a tool

A tool is run for a caller if it is registered and, where it needs a credential, the source of
credentials has one for the caller's user and the tool's integration.  Then it is run once, with
this credential in its context, and what it comes to within its time limit is what the caller gets.
Otherwise nothing happens, and the caller is told why.

* **`Invoker.Admits`** — a tool may be run for an invocation, in a context.
* `Invoker.Denies` — it may not, for a reason.
* `logs_noting_invoke` — what happens if tools note their uses.
* **`takes_invoke_of_admits`** — what an invocation comes to, and when.
* **`Invoker.invoked_once`** — all of this together.
-/

namespace Blockflow.Invoker

open Activity

variable {i : Invoker} {name : String} {arguments : Json} {x : Invocation} {tool : Tool}
  {context : ToolContext} {log : List LogEntry} {ms : Nat}

/-! ## Who may use a tool -/

/-- **A tool may be run for an invocation**: it is registered under the name, and it needs no
credential, or the source has one for the user and the integration.  This is the one in the context;
the rest of the context comes from the invocation. -/
inductive Admits (i : Invoker) (name : String) (x : Invocation) : Tool → ToolContext → Prop
  | free {tool : Tool} (registered : i.toolbox.get? name = some tool)
    (needless : integrationOf tool = none) :
    Admits i name x tool ⟨x.executionId, x.blockId, x.userId, none⟩
  | entitled {tool : Tool} {integration user : String} {source : Credentials} {c : Credential}
    (registered : i.toolbox.get? name = some tool)
    (needed : integrationOf tool = some integration) (present : i.credentials = some source)
    (named : x.userId = some user) (found : source.resolve user integration = .ok (some c)) :
    Admits i name x tool ⟨x.executionId, x.blockId, x.userId, some c⟩

/-- **No tool may be run for an invocation**: none is registered under the name, or it needs a
credential and there is none. -/
inductive Denies (i : Invoker) (name : String) (x : Invocation) : Error → Prop
  | unknown (absent : i.toolbox.get? name = none) : Denies i name x (.toolNotFound name)
  | missing {tool : Tool} {integration : String} (registered : i.toolbox.get? name = some tool)
    (needed : integrationOf tool = some integration)
    (missing : ∀ source user c, i.credentials = some source → x.userId = some user →
      source.resolve user integration ≠ .ok (some c)) :
    Denies i name x (.credentialMissing tool.name integration)

lemma lookup?_eq_some_iff {user : Option String} {integration : String} {c : Credential} :
    i.lookup? user integration = some c ↔ ∃ source u, i.credentials = some source ∧
      user = some u ∧ source.resolve u integration = .ok (some c) := by
  rw [lookup?.eq_def]
  cases i.credentials with
  | none => simp
  | some source =>
      cases user with
      | none => simp
      | some u => cases hfound : source.resolve u integration <;> simp [hfound]

/-- What a tool that may be run is given. -/
lemma Admits.credentialFor (h : i.Admits name x tool context) :
    i.toolbox.get? name = some tool ∧
      i.credentialFor tool x.userId = .ok context.credential ∧
      context = ⟨x.executionId, x.blockId, x.userId, context.credential⟩ := by
  cases h with
  | free registered needless =>
      exact ⟨registered, credentialFor_of_none needless i x.userId, rfl⟩
  | entitled registered needed present named found =>
      refine ⟨registered, ?_, rfl⟩
      rw [credentialFor_of_some needed,
        lookup?_eq_some_iff.mpr ⟨_, _, present, named, found⟩]

lemma Denies.not_admits {e : Error} (h : i.Denies name x e) (tool : Tool)
    (context : ToolContext) : ¬ i.Admits name x tool context := by
  intro hadmits
  cases h with
  | unknown absent => cases absent.symm.trans hadmits.credentialFor.1
  | missing registered needed missing =>
      cases hadmits with
      | free registered' needless =>
          cases registered.symm.trans registered'
          cases needless.symm.trans needed
      | entitled registered' needed' present named found =>
          cases registered.symm.trans registered'
          cases needed.symm.trans needed'
          exact missing _ _ _ present named found

/-- **A tool may be run or may not.** -/
lemma admits_or_denies (i : Invoker) (name : String) (x : Invocation) :
    (∃ tool context, i.Admits name x tool context) ∨ ∃ e, i.Denies name x e := by
  cases hget : i.toolbox.get? name with
  | none => exact .inr ⟨_, .unknown hget⟩
  | some tool =>
      cases hneeds : integrationOf tool with
      | none => exact .inl ⟨_, _, .free hget hneeds⟩
      | some integration =>
          cases hfound : i.lookup? x.userId integration with
          | none =>
              refine .inr ⟨_, .missing hget hneeds fun source user c hs hu hc => ?_⟩
              rw [lookup?_eq_some_iff.mpr ⟨source, user, hs, hu, hc⟩] at hfound
              cases hfound
          | some c =>
              obtain ⟨source, user, hs, hu, hc⟩ := lookup?_eq_some_iff.mp hfound
              exact .inl ⟨_, _, .entitled hget hneeds hs hu hc⟩

/-- What is told where no tool may be run. -/
lemma invoke_of_denies {e : Error} (h : i.Denies name x e) :
    i.invoke name arguments x = pure (.error e) := by
  cases h with
  | unknown absent => rw [invoke, absent]
  | missing registered needed missing =>
      rename_i tool integration
      have hnone : i.lookup? x.userId integration = none := by
        refine Option.eq_none_iff_forall_not_mem.mpr fun c hc => ?_
        obtain ⟨source, user, hs, hu, hc⟩ := lookup?_eq_some_iff.mp hc
        exact missing source user c hs hu hc
      rw [invoke, registered]
      dsimp only
      rw [credentialFor_of_some needed, hnone]

/-- **What is done where a tool may be run**: it is run once, within its time limit. -/
lemma invoke_of_admits (h : i.Admits name x tool context) :
    i.invoke name arguments x =
      (tool.run (visibleArguments arguments) context).timeout (tool.timeoutSecs * 1000) >>=
        fun ended =>
          pure (settle name (ended.getD (.error (.toolTimeout name tool.timeoutSecs)))) := by
  obtain ⟨hget, hcredential, hcontext⟩ := h.credentialFor
  rw [invoke, hget]
  dsimp only
  rw [hcredential]
  dsimp only
  rw [← hcontext, Toolbox.execute, hget]
  dsimp only
  rw [LawfulMonad.bind_assoc]
  refine congrArg _ (funext fun ended => ?_)
  cases ended <;> rfl

/-! ## What the caller gets -/

lemma settle_eq_ok_iff {ended : Except Error ToolOutcome} {content : String} :
    settle name ended = .ok content ↔ ended = .ok ⟨content, false⟩ := by
  cases ended with
  | ok outcome =>
      obtain ⟨text, isError⟩ := outcome
      cases isError <;> simp [settle]
  | error e => cases e <;> simp [settle]

/-- **Whatever a tool comes to, few kinds of errors reach the caller.** -/
lemma kind_of_settle {ended : Except Error ToolOutcome} {e : Error}
    (h : settle name ended = .error e) :
    e.kind = .toolExecutionError ∨ e.kind = .timeout ∨ e.kind = .cancelled := by
  cases ended with
  | ok outcome =>
      rw [settle] at h
      split_ifs at h
      cases h
      exact .inl rfl
  | error cause =>
      cases cause with
      | toolTimeout tool seconds =>
          cases h
          exact .inr (.inl rfl)
      | cancelled =>
          cases h
          exact .inr (.inr rfl)
      | _ =>
          cases h
          exact .inl rfl

/-- **What comes of running a tool**: what it comes to within its time limit, or, exactly when the
limit is over, that it is. -/
lemma takes_invoke_of_admits (h : i.Admits name x tool context) {result : Except Error String} :
    (i.invoke name arguments x).Takes log ms result ↔
      (∃ ended, (tool.run (visibleArguments arguments) context).Takes log ms ended ∧
        ms ≤ tool.timeoutSecs * 1000 ∧ result = settle name ended) ∨
      ((tool.run (visibleArguments arguments) context).timeout (tool.timeoutSecs * 1000)).Takes log
        ms none ∧ ms = tool.timeoutSecs * 1000 ∧
          result = .error (.toolTimeout name tool.timeoutSecs) := by
  rw [invoke_of_admits h, takes_bind_iff]
  constructor
  · rintro ⟨front, back, t, t', ended, rfl, rfl, hrun, hsettle⟩
    obtain ⟨rfl, rfl, rfl⟩ := takes_pure_iff.mp hsettle
    rw [List.append_nil, Nat.add_zero]
    cases ended with
    | none => exact .inr ⟨hrun, hrun.of_timeout_none, rfl⟩
    | some ended =>
        obtain ⟨hrun, hle⟩ := takes_timeout_some_iff.mp hrun
        exact .inl ⟨ended, hrun, hle, rfl⟩
  · rintro (⟨ended, hrun, hle, rfl⟩ | ⟨hrun, -, rfl⟩)
    · exact ⟨log, [], ms, 0, some ended, (List.append_nil log).symm, rfl,
        takes_timeout_some_iff.mpr ⟨hrun, hle⟩, takes_pure_iff.mpr ⟨rfl, rfl, rfl⟩⟩
    · exact ⟨log, [], ms, 0, none, (List.append_nil log).symm, rfl, hrun,
        takes_pure_iff.mpr ⟨rfl, rfl, rfl⟩⟩

/-! ## What happens -/

lemma admits_noting_iff :
    i.noting.Admits name x tool context ↔
      ∃ own, i.Admits name x own context ∧ tool = own.noting := by
  have hget : i.noting.toolbox.get? name = (i.toolbox.get? name).map Tool.noting :=
    Table.get?_mapValues _ _ _
  constructor
  · rintro (⟨registered, needless⟩ | ⟨registered, needed, present, named, found⟩) <;>
      rw [hget, Option.map_eq_some_iff] at registered <;>
      obtain ⟨own, registered, rfl⟩ := registered
    · exact ⟨own, .free registered needless, rfl⟩
    · exact ⟨own, .entitled registered needed present named found, rfl⟩
  · rintro ⟨own, ⟨registered, needless⟩ | ⟨registered, needed, present, named, found⟩, rfl⟩
    · exact .free (by rw [hget, registered]; rfl) needless
    · exact .entitled (by rw [hget, registered]; rfl) needed present named found

/-- What has happened where a tool may be run, if tools note their uses: the use is noted, and what
happens then is what happens in one run of the tool. -/
lemma logs_noting_invoke (h : i.Admits name x tool context) {r : Option (Except Error String)}
    (hlog : (i.noting.invoke name arguments x).Logs log r) :
    let use : ToolUse := ⟨tool.name, visibleArguments arguments, context⟩
    log = [.asked (.note use)] ∨
      ∃ rest r', log = .asked (.note use) :: .heard ⟨.note use, ()⟩ :: rest ∧
        (tool.run (visibleArguments arguments) context).Logs rest r' := by
  intro use
  rw [invoke_of_admits (admits_noting_iff.mpr ⟨tool, h, rfl⟩)] at hlog
  have hnoting : ∀ {r : Option (Except Error ToolOutcome)} {log : List LogEntry},
      (tool.noting.run (visibleArguments arguments) context).Logs log r →
      log = [.asked (.note use)] ∨
        ∃ rest r', log = .asked (.note use) :: .heard ⟨.note use, ()⟩ :: rest ∧
          (tool.run (visibleArguments arguments) context).Logs rest r' := by
    intro r log hrun
    cases hrun with
    | waits => exact .inl rfl
    | answered t answer rest => exact .inr ⟨_, _, rfl, rest⟩
  rcases hlog.of_bind with ⟨hrun, -⟩ | ⟨front, back, ended, rfl, hrun, hsettle⟩
  · exact hnoting hrun.of_timeout
  · obtain ⟨rfl, -⟩ := logs_pure_iff.mp hsettle
    rw [List.append_nil]
    exact hnoting hrun.of_timeout

/-- **A tool is run at most once, and for whom it may be run.**  For every invoker, whatever its
tools do and its source of credentials answers:

* If tools note their uses, nothing happens where no tool may be run.  Where one may be run, this
  use is noted, with the credential for the user and the integration in its context, and all that
  happens then is what happens in one run of the tool.
* A text is returned exactly if a tool that may be run ends within its time limit and reports no
  error; it is what the tool reports.
* An error is returned either because no tool may be run, and then it tells why, or because a tool
  failed that may be run, and then it is a failure of the tool, a timeout or a cancellation,
  whatever error the tool itself came to. -/
theorem invoked_once (i : Invoker) (name : String) (arguments : Json) (x : Invocation) :
    let shown := visibleArguments arguments
    (∀ log r, (i.noting.invoke name arguments x).Logs log r →
      (log = [] ↔ ∀ tool context, ¬ i.Admits name x tool context) ∧
      ∀ tool context, i.Admits name x tool context →
        let use : ToolUse := ⟨tool.name, shown, context⟩
        log = [.asked (.note use)] ∨
          ∃ rest r', log = .asked (.note use) :: .heard ⟨.note use, ()⟩ :: rest ∧
            (tool.run shown context).Logs rest r') ∧
    (∀ log ms content, (i.invoke name arguments x).Takes log ms (.ok content) ↔
      ∃ tool context, i.Admits name x tool context ∧
        (tool.run shown context).Takes log ms (.ok ⟨content, false⟩) ∧
        ms ≤ tool.timeoutSecs * 1000) ∧
    ∀ log ms e, (i.invoke name arguments x).Takes log ms (.error e) →
      ((∀ tool context, ¬ i.Admits name x tool context) ∧ i.Denies name x e ∧
          (e.kind = .toolNotFound ∨ e.kind = .credentialMissing)) ∨
        (∃ tool context, i.Admits name x tool context) ∧
          (e.kind = .toolExecutionError ∨ e.kind = .timeout ∨ e.kind = .cancelled) := by
  intro shown
  refine ⟨fun log r hlog => ⟨⟨?_, ?_⟩, fun tool context h => logs_noting_invoke h hlog⟩, ?_, ?_⟩
  · rintro rfl tool context h
    rcases logs_noting_invoke h hlog with hnil | ⟨rest, r', hnil, -⟩ <;> cases hnil
  · intro hnone
    rcases admits_or_denies i.noting name x with ⟨tool, context, h⟩ | ⟨e, h⟩
    · obtain ⟨own, h, -⟩ := admits_noting_iff.mp h
      exact absurd h (hnone own context)
    · rw [invoke_of_denies h] at hlog
      exact (logs_pure_iff.mp hlog).1
  · intro log ms content
    constructor
    · intro htakes
      rcases admits_or_denies i name x with ⟨tool, context, h⟩ | ⟨e, h⟩
      · rcases (takes_invoke_of_admits h).mp htakes with ⟨ended, hrun, hle, heq⟩ | ⟨-, -, heq⟩
        · obtain rfl := settle_eq_ok_iff.mp heq.symm
          exact ⟨tool, context, h, hrun, hle⟩
        · cases heq
      · rw [invoke_of_denies h, takes_pure_iff] at htakes
        cases htakes.2.2
    · rintro ⟨tool, context, h, hrun, hle⟩
      exact (takes_invoke_of_admits h).mpr
        (.inl ⟨_, hrun, hle, (settle_eq_ok_iff.mpr rfl).symm⟩)
  · intro log ms e htakes
    rcases admits_or_denies i name x with ⟨tool, context, h⟩ | ⟨e, h⟩
    · refine .inr ⟨⟨tool, context, h⟩, ?_⟩
      rcases (takes_invoke_of_admits h).mp htakes with ⟨ended, -, -, heq⟩ | ⟨-, -, heq⟩
      · exact kind_of_settle heq.symm
      · cases heq
        exact .inr (.inl rfl)
    · rw [invoke_of_denies h, takes_pure_iff] at htakes
      cases htakes.2.2
      refine .inl ⟨h.not_admits, h, ?_⟩
      cases h with
      | unknown => exact .inl rfl
      | missing => exact .inr rfl

/-- A mail tool that takes five milliseconds, and a source of credentials that fails for everybody
but one user: for her the mail is sent, and for another user nothing happens. -/
theorem invoked_once_mailing :
    let mail : Tool := .staged ⟨"mail", "", .null⟩ 30 (some "smtp") 5 (.ok { content := "sent" })
    let i : Invoker :=
      { toolbox := [("mail", mail)]
        credentials := some (.answering fun user integration =>
          if user = "ann" then .ok (some ⟨integration, "work", []⟩) else .error .cancelled) }
    let context : ToolContext := ⟨"e", "b", some "ann", some ⟨"smtp", "work", []⟩⟩
    i.Admits "mail" ⟨"e", "b", some "ann"⟩ mail context ∧
      (i.invoke "mail" .null ⟨"e", "b", some "ann"⟩).Takes
        [.asked (.note ⟨"mail", .null, context⟩), .heard ⟨.note ⟨"mail", .null, context⟩, ()⟩,
          .asked (.wait 5), .heard ⟨.wait 5, ()⟩] 5 (.ok "sent") ∧
      ∀ log r, (i.noting.invoke "mail" .null ⟨"e", "b", some "bob"⟩).Logs log r → log = [] := by
  intro mail i context
  have hadmits : i.Admits "mail" ⟨"e", "b", some "ann"⟩ mail context :=
    .entitled rfl rfl rfl rfl rfl
  obtain ⟨-, htext, -⟩ := invoked_once i "mail" .null ⟨"e", "b", some "ann"⟩
  obtain ⟨hhappens, -, -⟩ := invoked_once i "mail" .null ⟨"e", "b", some "bob"⟩
  refine ⟨hadmits, (htext _ _ _).mpr ⟨mail, context, hadmits, ?_, by decide⟩, fun log r hlog => ?_⟩
  · let sent : Activity (Except Error ToolOutcome) := pure (.ok ⟨"sent", false⟩)
    have hsent : sent.Takes [] 0 (.ok ⟨"sent", false⟩) := .done _
    change (Activity.note ⟨"mail", .null, context⟩ >>= fun _ => Activity.wait 5 >>= fun _ =>
      sent).Takes _ (0 + (5 + 0)) _
    exact .call_bind (c := .note ⟨"mail", .null, context⟩) 0 () <|
      .call_bind (c := .wait 5) (q := fun _ => sent) 5 () hsent
  · refine (hhappens log r hlog).1.mpr fun tool context h => ?_
    obtain ⟨hget, hcredential, -⟩ := h.credentialFor
    cases hget
    cases hcredential

end Blockflow.Invoker
