import Blockflow.Proofs.Provider.Repetition
import Blockflow.Provider.Completion

/-!
# Refusals that are repeated

A service that refuses a request says so with a status, and whether to try again is decided by
looking for some signs in the wording of the failure.  The wording quotes the status, its standard
phrase and the whole body of the answer.  The phrase never has a sign in it, but a body may hold any
text, and of the statuses that stand for a passing failure the signs name only some.

* `Retry.mentions_iff`, `infix_append_cons_iff` — a sign in a text, and in a part of one.
* `Http.Response.Quotes` — answers in whose body a sign stands.
* **`Retry.isRetryable_of_refusal_iff`** — the refusals that may pass.
* **`Retry.refusals_repeated`** — and those that are repeated.
-/

namespace Blockflow

open Activity

/-! ## Signs in a text -/

namespace Retry

lemma mentions_iff {part whole : List Char} : mentions part whole = true ↔ part <:+: whole := by
  induction whole with
  | nil => simp [mentions, List.infix_nil]
  | cons x whole ih => simp [mentions, ih, List.infix_cons_iff]

variable {part front back : List Char} {x : Char} {sign : String} {status : Nat}

/-- A text without some character stands in front of it or behind it. -/
lemma infix_append_cons_iff (hx : x ∉ part) :
    part <:+: front ++ x :: back ↔ part <:+: front ∨ part <:+: back := by
  constructor
  · intro h
    induction front with
    | nil =>
        rcases List.infix_cons_iff.mp h with hprefix | hback
        · cases part with
          | nil => exact .inr List.nil_infix
          | cons y part =>
              obtain ⟨rfl, -⟩ := List.cons_prefix_cons.mp hprefix
              exact absurd List.mem_cons_self hx
        · exact .inr hback
    | cons y front ih =>
        rcases List.infix_cons_iff.mp h with hprefix | hrest
        · refine .inl (List.IsPrefix.isInfix ?_)
          -- a part that reached behind the character would have it in it
          rcases List.prefix_or_prefix_of_prefix hprefix (List.prefix_append (y :: front) _) with
            hfront | ⟨rest, rfl⟩
          · exact hfront
          · have hrest : rest <+: x :: back := (List.prefix_append_right_inj _).mp hprefix
            cases rest with
            | nil => simp
            | cons z rest =>
                obtain ⟨rfl, -⟩ := List.cons_prefix_cons.mp hrest
                exact absurd (by simp) hx
        · exact (ih hrest).imp_left List.infix_cons
  · rintro (h | h)
    · exact h.trans (List.prefix_append _ _).isInfix
    · exact h.trans ((List.suffix_cons _ _).trans (List.suffix_append _ _)).isInfix

/-- The statuses that are signs of a passing failure. -/
def passingStatuses : List Nat := [429, 500, 502, 503]

lemma passingSigns_eq :
    passingSigns = passingStatuses.map toString ++ ["timeout", "connection"] := by decide

lemma eq_of_toString_eq {m n : Nat} (h : toString m = toString n) : m = n := by
  have hdigits : Nat.toDigits 10 m = Nat.toDigits 10 n := by
    simpa only [Nat.toString_eq_ofList_toDigits, String.toList_ofList] using
      congrArg String.toList h
  rw [← Nat.ofDigitChars_ten_toDigits (n := m), hdigits, Nat.ofDigitChars_ten_toDigits]

/-- A status has three digits.  Every sign has as many characters or more, so that a status mentions
a sign only if it is one. -/
lemma exists_infix_status_iff (hstatus : status < 1000) :
    (∃ sign ∈ passingSigns, sign.toList <:+: (toString status).toList) ↔
      status ∈ passingStatuses := by
  constructor
  · rintro ⟨sign, hsign, hfound⟩
    have hdigits : (toString status).toList.length ≤ 3 := by
      rw [Nat.toString_eq_ofList_toDigits, String.toList_ofList]
      exact (Nat.length_toDigits_le_iff (by decide) (by decide)).mpr hstatus
    have hlong : ∀ sign ∈ passingSigns, 3 ≤ sign.toList.length := by decide
    have heq : sign = toString status :=
      String.toList_injective (hfound.eq_of_length_le (Nat.le_trans hdigits (hlong sign hsign)))
    rw [heq] at hsign hfound
    rw [passingSigns_eq, List.mem_append] at hsign
    rcases hsign with hnumeral | hword
    · obtain ⟨status', hmem, htext⟩ := List.mem_map.mp hnumeral
      exact eq_of_toString_eq htext ▸ hmem
    · have hlonger : ∀ word ∈ ["timeout", "connection"], 3 < word.toList.length := by decide
      exact absurd (hlonger _ hword) (Nat.not_lt.mpr hdigits)
  · intro h
    refine ⟨toString status, ?_, List.infix_rfl⟩
    rw [passingSigns_eq]
    exact List.mem_append_left _ (List.mem_map_of_mem h)

/-- A phrase is one of the standard ones, or says that there is none. -/
lemma reason_mem (status : Nat) :
    Http.reason status ∈ "<unknown status code>" :: Http.reasons.map Prod.snd := by
  rw [Http.reason]
  cases hphrase : Http.reasons.lookup status with
  | none => exact List.mem_cons_self
  | some phrase =>
      obtain ⟨front, back, heq, -⟩ := List.lookup_eq_some_iff.mp hphrase
      rw [heq]
      simp

/-- The signs, spelled out. -/
lemma map_toList_passingSigns :
    passingSigns.map String.toList =
      [['4', '2', '9'], ['5', '0', '0'], ['5', '0', '2'], ['5', '0', '3'],
        ['t', 'i', 'm', 'e', 'o', 'u', 't'],
        ['c', 'o', 'n', 'n', 'e', 'c', 't', 'i', 'o', 'n']] := by decide +kernel

/-- **No phrase has a sign in it.** -/
lemma not_infix_reason (hsign : sign ∈ passingSigns) :
    ¬ sign.toList <:+: (Http.reason status).toList := by
  have hnone : ∀ phrase ∈ "<unknown status code>" :: Http.reasons.map Prod.snd,
      ∀ part ∈ passingSigns.map String.toList, mentions part phrase.toList = false := by
    rw [map_toList_passingSigns]
    decide +kernel
  rw [← mentions_iff, hnone _ (reason_mem status) _ (List.mem_map_of_mem hsign)]
  exact Bool.false_ne_true

end Retry

/-! ## Refusals -/

/-- An answer in whose body a sign of a passing failure stands. -/
def Http.Response.Quotes (r : Http.Response) : Prop :=
  ∃ text, r.text? = some text ∧ ∃ sign ∈ Retry.passingSigns, sign.toList <:+: text.toList

namespace Retry

variable {r : Http.Response} {e : Error} {sign : String}

/-- A body that cannot be read has no sign in it. -/
lemma exists_infix_body_iff :
    (∃ sign ∈ passingSigns, sign.toList <:+: (r.text?.getD "unknown").toList) ↔ r.Quotes := by
  rw [Http.Response.Quotes]
  cases r.text? with
  | none =>
      have hnone : ∀ sign ∈ passingSigns, mentions sign.toList "unknown".toList = false := by
        decide +kernel
      refine iff_of_false ?_ (by simp)
      rintro ⟨sign, hsign, hfound⟩
      rw [Option.getD_none, ← mentions_iff, hnone sign hsign] at hfound
      cases hfound
  | some text => simp

/-- What stands between the parts of a wording is in no sign, and neither is a sign in what stands
in front of them. -/
lemma signs_apart (hsign : sign ∈ passingSigns) :
    ' ' ∉ sign.toList ∧ ':' ∉ sign.toList ∧ ¬ sign.toList <:+: "HTTP".toList ∧
      ¬ sign.toList <:+: [] := by
  have hall : ∀ sign ∈ passingSigns, ' ' ∉ sign.toList ∧ ':' ∉ sign.toList ∧
      ¬ mentions sign.toList "HTTP".toList = true ∧ ¬ mentions sign.toList [] = true := by decide
  simpa only [mentions_iff] using hall sign hsign

/-- **The refusals that may pass**: those with one of the four statuses, and those in whose body a
sign stands, whatever their status. -/
theorem isRetryable_of_refusal_iff (hstatus : r.status < 1000)
    (h : Completion.received r = .error e) :
    isRetryable e = true ↔ r.status ∈ passingStatuses ∨ r.Quotes := by
  rw [Completion.received] at h
  split_ifs at h
  obtain rfl := Except.error.inj h
  rw [isRetryable, List.any_eq_true, ← exists_infix_status_iff hstatus, ← exists_infix_body_iff,
    ← exists_or]
  refine exists_congr fun sign => ?_
  rw [← and_or_left]
  refine and_congr_right fun hsign => ?_
  obtain ⟨hblank, hcolon, hscheme, hnil⟩ := signs_apart hsign
  have hwording : ("HTTP " ++ Http.statusText r.status ++ ": " ++ r.text?.getD "unknown").toList =
      "HTTP".toList ++ ' ' :: ((toString r.status).toList ++ ' ' :: ((Http.reason r.status).toList ++
        ':' :: ([] ++ ' ' :: (r.text?.getD "unknown").toList))) := by
    simp [Http.statusText]
  rw [mentions_iff, hwording, infix_append_cons_iff hblank, infix_append_cons_iff hblank,
    infix_append_cons_iff hcolon, infix_append_cons_iff hblank]
  simp only [hscheme, not_infix_reason hsign, hnil, false_or]

end Retry

/-- An exchange with a service that is over: it gave an answer. -/
def Http.exchanged (m : Http.Request) (r : Http.Response) : List LogEntry :=
  [.asked (.exchange m), .heard ⟨.exchange m, .answered r⟩]

/-- A request that can be sent, and is answered, comes to what the answer comes to; what cannot be
sent is not answered. -/
lemma Completion.logs_exchanged_iff {q : ModelRequest} {m : Http.Request} {r : Http.Response}
    {outcome : Except Error Stream} :
    (Completion.client q).Logs (Http.exchanged m r) (some outcome) ↔
      (Completion.draft q).build = .ok m ∧ outcome = Completion.received r := by
  rw [Completion.client, Http.send]
  cases hbuild : (Completion.draft q).build with
  | error wording =>
      refine iff_of_false (fun h => ?_) (by simp)
      cases h
  | ok request =>
      constructor
      · intro h
        cases h with
        | answered ms answer rest =>
            cases rest
            exact ⟨rfl, rfl⟩
      · rintro ⟨hrequest, rfl⟩
        cases hrequest
        exact .answered (c := .exchange m) 0 (.answered r) (.done _)

namespace Retry

variable {q : ModelRequest}

/-- **Which refusals are repeated.**  A client of chat completions that repeats failed calls makes
some trials, with waits between them.  If one of them is answered with a status that does not tell
of success, it is followed by another exactly if there are repetitions left and the status is one of
429, 500, 502 and 503, or a sign of a passing failure stands in the body of the answer.  The
standard phrase of the status has no part in this, but the body has; and statuses from 500 on that
are not among the four are as final as others. -/
theorem refusals_repeated (c : RetryConfig) (jitter : Jitter) (q : ModelRequest) :
    (∀ log outcome, (client c jitter Completion.client q).Logs log (some outcome) ↔
      ∃ trials, log = joined c jitter 0 trials ∧
        Tries (Completion.client q) c.maxRetries trials outcome) ∧
    ∀ trials outcome, Tries (Completion.client q) c.maxRetries trials outcome →
      ∀ i t m r, trials[i]? = some t → t.log = Http.exchanged m r →
        r.status < 1000 → Http.isSuccess r.status = false →
        (i + 1 < trials.length ↔
          i < c.maxRetries ∧ (r.status ∈ passingStatuses ∨ r.Quotes)) := by
  refine ⟨fun log outcome => logs_client_iff, ?_⟩
  intro trials outcome htries i t m r ht hexchanged hstatus hrefused
  have hof : t.Of (Completion.client q) := htries.of_mem t (List.mem_of_getElem? ht)
  rw [Trial.Of, hexchanged] at hof
  have houtcome := (Completion.logs_exchanged_iff.mp hof).2
  obtain ⟨e, he⟩ : ∃ e, Completion.received r = .error e := by
    rw [Completion.received, hrefused]
    exact ⟨_, rfl⟩
  rw [htries.again_iff ht, Trial.MayPass, houtcome, he,
    ← isRetryable_of_refusal_iff hstatus he]
  simp

/-- A request to a service of one's own, for the examples that follow. -/
def errand : ModelRequest :=
  { config := { modelId := "small", baseUrl := some "http://m" }, messages := [], tools := [],
    format := .text }

lemma build_errand : ((Completion.draft errand).build).toOption.isSome = true := by decide +kernel

/-- A service that is overloaded at first, and then does not answer in time: the first refusal is
repeated, the second one is not, though two repetitions are left. -/
theorem refusals_repeated_overloaded :
    let overloaded : Http.Response := { status := 503, body := [] }
    let late : Http.Response := { status := 504, body := [] }
    ∃ m,
      let trials : List Trial :=
        [⟨Http.exchanged m overloaded, Completion.received overloaded⟩,
          ⟨Http.exchanged m late, Completion.received late⟩]
      Tries (Completion.client errand) 3 trials (Completion.received late) ∧
        (client {} steady Completion.client errand).Logs (joined {} steady 0 trials)
          (some (Completion.received late)) ∧
        (503 ∈ passingStatuses ∨ overloaded.Quotes) ∧
        ¬ (504 ∈ passingStatuses ∨ late.Quotes) := by
  intro overloaded late
  obtain ⟨m, hm⟩ := Option.isSome_iff_exists.mp build_errand
  have hbuild : (Completion.draft errand).build = .ok m := by
    cases h : (Completion.draft errand).build <;> simp_all [Except.toOption]
  refine ⟨m, ?_⟩
  intro trials
  have hpass : ∃ e, Completion.received overloaded = .error e ∧ isRetryable e = true :=
    ⟨_, rfl, by decide +kernel⟩
  have hfinal : ¬ ∃ e, Completion.received late = .error e ∧ isRetryable e = true := by
    rintro ⟨e, he, hpass⟩
    cases he
    exact absurd hpass (by decide +kernel)
  have htries : Tries (Completion.client errand) 3 trials (Completion.received late) :=
    .again (Completion.logs_exchanged_iff.mpr ⟨hbuild, rfl⟩) hpass
      (.settled (Completion.logs_exchanged_iff.mpr ⟨hbuild, rfl⟩) (.inr hfinal))
  obtain ⟨hlogs, hrepeated⟩ := refusals_repeated {} steady errand
  have hfirst := hrepeated trials _ htries 0 _ m overloaded rfl rfl (by decide) rfl
  have hsecond := hrepeated trials _ htries 1 _ m late rfl rfl (by decide) rfl
  refine ⟨htries, (hlogs _ _).mpr ⟨trials, rfl, htries⟩,
    (hfirst.mp Nat.one_lt_two).2, fun hsign => ?_⟩
  exact Nat.lt_irrefl 2 (hsecond.mpr ⟨by decide, hsign⟩)

/-- The status does not tell whether a refusal is repeated.  A service that does not answer in time
is asked once, though three repetitions are left; one that finds the request too long, and says so
with a number in which there is a sign, is asked four times. -/
theorem refusals_not_by_status :
    let asked (r : Http.Response) : Nat :=
      let w : World := { peer := { reachable := true, replies := [r, r, r, r] } }
      ((client {} steady Completion.client errand).run w).1.peer.sent.length
    asked { status := 504, body := [] } = 1 ∧
      asked { status := 400, body := Utf8.encode "at most 1500 tokens" } = 4 := by
  decide +kernel

end Retry

end Blockflow
