import Blockflow.Proofs.Dialogue

/-!
# Structured answers of a block

A block that asks for JSON hands over a value that it has read from the model's answer and checked
against its schema.  A schema is JSON itself, whatever JSON it is: what it declares in the proper
form counts, and what it says in any other form is no declaration.  An answer that does not do is
corrected once, and what the model says then is final.

* `Structured.OfType`, **`Structured.Conforms`** — values of a type, and values that conform to a
  schema.
* `Structured.issues_eq_nil_iff`, `Structured.parse_eq_ok_iff` — the checks miss nothing.
* `Settled` — what a block comes to, seen from the final answers of the model.
* **`ModelBlock.structured_outputs`** — the outputs of a block that asks for JSON.
-/

namespace Blockflow

namespace Structured

/-! ## Conformance -/

/-- **A value is of the type of a name.**  Names that mean nothing accept everything. -/
inductive OfType : Json → String → Prop
  | object (ms : Json.Object) : OfType (.object ms) "object"
  | array (items : List Json) : OfType (.array items) "array"
  | text (s : String) : OfType (.text s) "string"
  | number (n : Json.Number) : OfType (.number n) "number"
  | integer (i : Int) : OfType (.number (.int i)) "integer"
  | bool (b : Bool) : OfType (.bool b) "boolean"
  | null : OfType .null "null"
  | unknown (v : Json) {name : String}
    (h : name ∉ ["object", "array", "string", "number", "integer", "boolean", "null"]) :
    OfType v name

/-- **A value conforms to a schema.** -/
structure Conforms (v schema : Json) : Prop where
  /-- The type, if the schema declares one. -/
  type : ∀ name, schema.get? "type" = some (.text name) → OfType v name
  /-- An object has every required key. -/
  required : ∀ ms keys key, v = .object ms → schema.get? "required" = some (.array keys) →
    .text key ∈ keys → ∃ u, Table.get? ms key = some u
  /-- What an object has of the declared properties is of their declared types. -/
  properties : ∀ ms declared key property name u, v = .object ms →
    schema.get? "properties" = some (.object declared) → (key, property) ∈ declared →
    property.get? "type" = some (.text name) → Table.get? ms key = some u → OfType u name

variable {v schema : Json} {ms : Json.Object} {name : String}

lemma hasType_iff : hasType v name = true ↔ OfType v name := by
  constructor
  · intro h
    unfold hasType at h
    split at h
    · exact .object _
    · exact .array _
    · exact .text _
    · exact .number _
    · exact .integer _
    · exact .bool _
    · exact .null
    · exact .unknown v (by simpa using h)
  · intro h
    cases h with
    | unknown v h =>
        unfold hasType
        split <;> simp_all
    | object | array | text | number | integer | bool | null => rfl

lemma asText?_eq_some_iff {s : String} : v.asText? = some s ↔ v = .text s := by
  cases v <;> simp [Json.asText?]

lemma asArray?_eq_some_iff {items : List Json} : v.asArray? = some items ↔ v = .array items := by
  cases v <;> simp [Json.asArray?]

lemma asObject?_eq_some_iff : v.asObject? = some ms ↔ v = .object ms := by
  cases v <;> simp [Json.asObject?]

/-- A type is declared by its name as a text. -/
lemma declaredType?_eq_some_iff :
    declaredType? schema = some name ↔ schema.get? "type" = some (.text name) := by
  simp [declaredType?, Option.bind_eq_some_iff, asText?_eq_some_iff]

/-- **Keys that are required by their texts** are there; whatever else is required is not. -/
lemma missingKeys_eq_nil_iff :
    missingKeys ms schema = [] ↔ ∀ keys key, schema.get? "required" = some (.array keys) →
      .text key ∈ keys → ∃ u, Table.get? ms key = some u := by
  have hdeclared : ∀ keys, (schema.get? "required").bind Json.asArray? = some keys ↔
      schema.get? "required" = some (.array keys) := by
    simp [Option.bind_eq_some_iff, asArray?_eq_some_iff]
  have hcontains : ∀ key, (∃ u, Table.get? ms key = some u) ↔ Table.contains ms key = true :=
    fun _ => Option.isSome_iff_exists.symm
  simp only [← hdeclared, hcontains, missingKeys]
  cases (schema.get? "required").bind Json.asArray? with
  | none => simp
  | some keys =>
      simp only [List.filterMap_eq_nil_iff, List.mem_filterMap, asText?_eq_some_iff,
        Option.some.injEq]
      constructor
      · rintro h _ key rfl hkey
        by_contra hnone
        have hissue := h key ⟨_, hkey, rfl⟩
        rw [if_neg hnone] at hissue
        cases hissue
      · rintro h key ⟨_, hkey, rfl⟩
        exact if_pos (h keys key rfl hkey)

/-- **Properties with a declared type** are of that type where they are there at all. -/
lemma mistypedKeys_eq_nil_iff :
    mistypedKeys ms schema = [] ↔ ∀ declared key property name u,
      schema.get? "properties" = some (.object declared) → (key, property) ∈ declared →
      property.get? "type" = some (.text name) → Table.get? ms key = some u → OfType u name := by
  have hdeclared : ∀ declared, (schema.get? "properties").bind Json.asObject? = some declared ↔
      schema.get? "properties" = some (.object declared) := by
    simp [Option.bind_eq_some_iff, asObject?_eq_some_iff]
  simp only [← hdeclared, ← declaredType?_eq_some_iff, mistypedKeys]
  cases (schema.get? "properties").bind Json.asObject? with
  | none => simp
  | some declared =>
      simp only [List.filterMap_eq_nil_iff, Option.some.injEq, Prod.forall]
      constructor
      · rintro h _ key property name u rfl hmem htype hget
        have hissue := h key property hmem
        simp only [hget, htype] at hissue
        by_contra hof
        rw [← hasType_iff] at hof
        simp [hof] at hissue
      · intro h key property hmem
        split
        · next u name hget htype =>
            exact if_pos (hasType_iff.mpr (h declared key property name u rfl hmem htype hget))
        · rfl

/-- A value conforms if the checks find nothing, the type being checked first. -/
lemma conforms_iff :
    Conforms v schema ↔
      (∀ name, declaredType? schema = some name → hasType v name = true) ∧
        ∀ ms, v = .object ms → missingKeys ms schema = [] ∧ mistypedKeys ms schema = [] := by
  simp only [declaredType?_eq_some_iff, hasType_iff, missingKeys_eq_nil_iff,
    mistypedKeys_eq_nil_iff]
  constructor
  · exact fun h => ⟨h.type, fun ms hms =>
      ⟨fun keys key => h.required ms keys key hms,
        fun declared key property name u => h.properties ms declared key property name u hms⟩⟩
  · exact fun h => ⟨h.1, fun ms keys key hms => (h.2 ms hms).1 keys key,
      fun ms declared key property name u hms => (h.2 ms hms).2 declared key property name u⟩

/-- **Nothing is wrong with a value exactly if it conforms.** -/
theorem issues_eq_nil_iff : issues v schema = [] ↔ Conforms v schema := by
  rw [conforms_iff]
  unfold issues
  cases declaredType? schema with
  | none => cases v <;> simp
  | some name =>
      by_cases hname : hasType v name = true
      · cases v <;> simp [hname]
      · simp [hname]

/-- **An answer is accepted** with a value if it is JSON of that value, and the value conforms to
the schema, if there is one. -/
def Accepts (schema : Option Json) (answer : String) (v : Json) : Prop :=
  Json.parse (extract answer) = .ok v ∧ ∀ s ∈ schema, Conforms v s

theorem parse_eq_ok_iff {answer : String} {schema : Option Json} :
    parse answer schema = .ok v ↔ Accepts schema answer v := by
  unfold parse Accepts
  cases Json.parse (extract answer) with
  | error wording => simp
  | ok u =>
      cases schema with
      | none => simp
      | some s =>
          simp only [Option.map_some, Option.getD_some, Except.ok.injEq, Option.mem_some_iff,
            forall_eq', ← issues_eq_nil_iff]
          constructor
          · intro h
            split at h
            · next hnil =>
                cases h
                exact ⟨rfl, hnil⟩
            · cases h
          · rintro ⟨rfl, hnil⟩
            rw [hnil]

/-- An answer that has issues is not accepted. -/
lemma not_accepts {answer : String} {schema : Option Json} {issues : List String}
    (h : parse answer schema = .error issues) (v : Json) : ¬ Accepts schema answer v := by
  rw [← parse_eq_ok_iff, h]
  rintro ⟨⟩

end Structured

/-! ## Answers -/

open Activity Log

variable {c : ModelBlockConfig}

namespace ModelBlockConfig

/-- What a block that asks for JSON reads in an answer is a value with which it is accepted. -/
lemma accepts_of_read (hjson : c.outputFormat = .json) {answer : String} {data : Option Json}
    (h : c.read answer = .ok data) :
    ∃ v, data = some v ∧ Structured.Accepts c.outputSchema answer v := by
  rw [read_of_json hjson] at h
  cases hparse : Structured.parse answer c.outputSchema with
  | error issues =>
      rw [hparse] at h
      cases h
  | ok v =>
      rw [hparse] at h
      cases h
      exact ⟨v, rfl, Structured.parse_eq_ok_iff.mp hparse⟩

lemma parse_of_read (hjson : c.outputFormat = .json) {answer : String} {issues : List String}
    (h : c.read answer = .error issues) :
    Structured.parse answer c.outputSchema = .error issues := by
  rw [read_of_json hjson] at h
  cases hparse : Structured.parse answer c.outputSchema with
  | error found =>
      rw [hparse] at h
      cases h
      rfl
  | ok v =>
      rw [hparse] at h
      cases h

end ModelBlockConfig

/-- **What a block that asks for JSON comes to**, seen from the final answers of the model. -/
inductive Settled (schema : Option Json) :
    List String → Option (Except Error BlockOutput) → Prop
  /-- No answer was accepted yet, and there is still one to come, or there was an error. -/
  | pending {answers : List String} {r : Option (Except Error BlockOutput)}
    (hlength : answers.length ≤ 1)
    (hrefused : ∀ answer ∈ answers, ∀ v, ¬ Structured.Accepts schema answer v)
    (hr : ∀ output, r ≠ some (.ok output)) : Settled schema answers r
  | accepted {refused : List String} {answer : String} {v : Json} (hlength : refused.length ≤ 1)
    (hrefused : ∀ answer ∈ refused, ∀ v, ¬ Structured.Accepts schema answer v)
    (conv : Conversation) (h : Structured.Accepts schema answer v) :
    Settled schema (refused ++ [answer]) (some (.ok (ModelBlock.outputs (some v) answer conv)))
  | refused {first second : String} {issues : List String}
    (hfirst : ∀ v, ¬ Structured.Accepts schema first v)
    (hsecond : Structured.parse second schema = .error issues) :
    Settled schema [first, second]
      (some (.error (.structuredOutputInvalid (String.intercalate "; " issues))))

namespace Settled

variable {schema : Option Json} {given : List String} {r : Option (Except Error BlockOutput)}

/-- **The outputs of a block** are the last answer and the value with which it is accepted. -/
lemma of_output {output : BlockOutput} (h : Settled schema given (some (.ok output))) :
    ∃ answer v, given.getLast? = some answer ∧
      Table.get? output.outputs "response" = some (.text answer) ∧
      Table.get? output.outputs "data" = some v ∧ Structured.Accepts schema answer v := by
  cases h with
  | pending hlength hrefused hr => exact absurd rfl (hr output)
  | accepted hlength hrefused conv h => exact ⟨_, _, List.getLast?_concat .., rfl, rfl, h⟩

/-- An accepted answer completes its block. -/
lemma of_accepts (h : Settled schema given r) {answer : String} (hmem : answer ∈ given) {v : Json}
    (haccepts : Structured.Accepts schema answer v) : ∃ output, r = some (.ok output) := by
  cases h with
  | pending hlength hrefused hr => exact absurd haccepts (hrefused answer hmem v)
  | accepted hlength hrefused conv h => exact ⟨_, rfl⟩
  | refused hfirst hsecond =>
      simp only [List.mem_cons, List.not_mem_nil, or_false] at hmem
      rcases hmem with rfl | rfl
      · exact absurd haccepts (hfirst v)
      · exact absurd haccepts (Structured.not_accepts hsecond v)

/-- **A second answer that is not accepted** fails its block with the issues of it. -/
lemma of_refused {first second : String} (h : Settled schema [first, second] r)
    (hsecond : ∀ v, ¬ Structured.Accepts schema second v) :
    ∃ issues, Structured.parse second schema = .error issues ∧
      r = some (.error (.structuredOutputInvalid (String.intercalate "; " issues))) := by
  generalize hgiven : [first, second] = given at h
  cases h with
  | pending hlength hrefused hr =>
      subst hgiven
      simp at hlength
  | @accepted before last v hlength hrefused conv h =>
      have hlast : second = last := by simpa using congrArg List.getLast? hgiven
      exact absurd h (hlast ▸ hsecond v)
  | refused hfirst hsecond =>
      cases hgiven
      exact ⟨_, hsecond, rfl⟩

lemma length_le (h : Settled schema given r) : given.length ≤ 2 := by
  cases h with
  | pending hlength => omega
  | accepted hlength => simpa using hlength
  | refused => simp

end Settled

namespace Talk

variable {voice : Voice} {limit : Nat} {log : List LogEntry}
  {r : Option (Except Error BlockOutput)}

/-- A conversation settles a block that has refused no more than one answer before. -/
lemma settled_of_closing (hjson : c.outputFormat = .json) {refused : List String}
    (hlength : refused.length ≤ 1)
    (hrefused : ∀ answer ∈ refused, ∀ v, ¬ Structured.Accepts c.outputSchema answer v)
    {ending : DialogueEnd} (hclosing : Closing c ending r)
    (hread : refused = [] → ∀ answer ∈ ending.answer?, ∃ data, c.read answer = .ok data) :
    Settled c.outputSchema (refused ++ ending.answer?.toList) r := by
  -- a conversation that ends without an answer adds nothing to what was refused
  have hpending : ending.answer? = none → (∀ output, r ≠ some (.ok output)) →
      Settled c.outputSchema (refused ++ ending.answer?.toList) r := by
    intro hnone hr
    rw [hnone, Option.toList_none, List.append_nil]
    exact .pending hlength hrefused hr
  cases hclosing with
  | waiting => exact hpending rfl (by rintro _ ⟨⟩)
  | failed e => exact hpending rfl (by rintro _ ⟨⟩)
  | completed left conv h =>
      obtain ⟨v, rfl, haccepts⟩ := ModelBlockConfig.accepts_of_read hjson h
      exact .accepted hlength hrefused conv haccepts
  | rejected left h =>
      cases refused with
      | nil =>
          obtain ⟨data, hdata⟩ := hread rfl _ rfl
          cases h.symm.trans hdata
      | cons first rest =>
          obtain rfl : rest = [] := List.eq_nil_of_length_eq_zero (by simpa using hlength)
          exact .refused (hrefused first (by simp)) (ModelBlockConfig.parse_of_read hjson h)

/-- **A talk settles its block.** -/
theorem settled (h : Talk voice c limit log r) (hjson : c.outputFormat = .json) :
    Settled c.outputSchema (answers voice log) r := by
  cases h with
  | once h hread hclosing =>
      rw [h.answers_eq]
      exact settled_of_closing hjson (by decide : [].length ≤ 1)
        (fun _ hnil => absurd hnil List.not_mem_nil) hclosing fun _ => hread
  | @twice _ _ answer _ _ _ _ h hissues rest hclosing =>
      have hparse := ModelBlockConfig.parse_of_read hjson hissues
      rw [answers_append, h.answers_eq, rest.answers_eq]
      exact settled_of_closing hjson (Nat.le_refl [answer].length)
        (by simpa using Structured.not_accepts hparse) hclosing
        fun hnil => absurd hnil (List.cons_ne_nil _ _)

/-- Behind an accepted answer nothing is asked, and nothing behind a second one. -/
lemma eachBehind_unsettled (h : Talk voice c limit log r) (hjson : c.outputFormat = .json) :
    EachBehind (fun front x => ∀ call, x = .asked call →
      (answers voice front).length ≤ 1 ∧
        ∀ answer ∈ answers voice front, ∀ v, ¬ Structured.Accepts c.outputSchema answer v) log := by
  have hnone : ∀ {left : Nat} {log : List LogEntry} {ending : DialogueEnd},
      Dialogue voice limit left log ending → EachBehind (fun front x => ∀ call, x = .asked call →
        answers voice front = []) log :=
    fun h front x back hlog call hx => (h.eachBehind_orders front x back hlog call hx).1
  cases h with
  | once h hread hclosing =>
      intro front x back hlog call hx
      rw [hnone h front x back hlog call hx]
      simp
  | twice h hissues rest hclosing =>
      have hparse := ModelBlockConfig.parse_of_read hjson hissues
      refine eachBehind_append_iff.mpr ⟨?_, ?_⟩
      · intro front x back hlog call hx
        rw [hnone h front x back hlog call hx]
        simp
      · intro entries x back hlog call hx
        rw [answers_append, h.answers_eq, hnone rest entries x back hlog call hx]
        simpa using Structured.not_accepts hparse

end Talk

/-- **The outputs of a block that asks for JSON.**  Whatever the model says, what the block hands
over as data is the JSON value of the last answer, which it hands over too, and the value conforms
to the schema.  An accepted answer completes the block.  If the first one is not accepted, and the
corrected one is not either, the block fails.  There is no third answer, and nothing is asked that
it could come from. -/
theorem ModelBlock.structured_outputs {voice : Voice} {shared : ModelBlocks}
    (hclient : shared.client = askModel voice) (hspares : shared.invoker.Spares voice) {b : Block}
    (hb : b.config = .llmInference c) (hjson : c.outputFormat = .json) {inputs : Json.Object}
    {context : BlockContext} {log : List LogEntry} {r : Option Ending}
    (h : (executor shared b inputs context).Logs log r) :
    (∀ output, r = some (.returned (.ok output)) →
      ∃ answer v, (answers voice log).getLast? = some answer ∧
        Table.get? output.outputs "response" = some (.text answer) ∧
        Table.get? output.outputs "data" = some v ∧
        Json.parse (Structured.extract answer) = .ok v ∧
        ∀ schema ∈ c.outputSchema, Structured.Conforms v schema) ∧
    (∀ answer ∈ answers voice log, ∀ v, Structured.Accepts c.outputSchema answer v →
      ∃ output, r = some (.returned (.ok output))) ∧
    (∀ first second, answers voice log = [first, second] →
      (∀ v, ¬ Structured.Accepts c.outputSchema second v) →
      ∃ issues, Structured.parse second c.outputSchema = .error issues ∧
        r = some (.returned (.error
          (.structuredOutputInvalid (String.intercalate "; " issues))))) ∧
    (answers voice log).length ≤ 2 ∧
    ∀ front call back, log = front ++ .asked call :: back →
      (answers voice front).length ≤ 1 ∧
        ∀ answer ∈ answers voice front, ∀ v, ¬ Structured.Accepts c.outputSchema answer v := by
  obtain ⟨result, rfl, htalk⟩ := talk_of_logs hclient hspares hb h
  have hsettled := htalk.settled hjson
  refine ⟨fun output hr => ?_, fun answer hmem v haccepts => ?_,
    fun first second hgiven hsecond => ?_, hsettled.length_le,
    fun front call back hlog => htalk.eachBehind_unsettled hjson front _ back hlog call rfl⟩
  · obtain ⟨result, rfl, hresult⟩ := Option.map_eq_some_iff.mp hr
    cases hresult
    exact hsettled.of_output
  · obtain ⟨output, rfl⟩ := hsettled.of_accepts hmem haccepts
    exact ⟨output, rfl⟩
  · obtain ⟨issues, hissues, rfl⟩ := (hgiven ▸ hsettled).of_refused hsecond
    exact ⟨issues, hissues, rfl⟩

/-- The schema of an object that has to have a whole number for its `count`. -/
def countSchema : Json :=
  .object [("properties", .object [("count", .object [("type", .text "integer")])]),
    ("required", .array [.text "count"]), ("type", .text "object")]

/-- A block that gets a text for a count, and then, after another round of mail, a number between
fences. -/
theorem ModelBlock.structured_outputs_corrected :
    let shared := ModelBlocks.mailroom
    let c : ModelBlockConfig :=
      { enabledTools := ["mail"], outputFormat := .json, outputSchema := some countSchema }
    let b : Block := { id := "m", normalizedId := "m", config := .llmInference c }
    let run := executor shared b [] ⟨"e", "m", none, false⟩
    let first := "\x7b\"count\":\"3\"\x7d"
    let second := "Sorry. \x60\x60\x60json\n\x7b\"count\":3\x7d\n\x60\x60\x60"
    let script : List ScriptStep :=
      [.asksFor "1" "mail" .null, .answers first, .asksFor "2" "mail" .null, .answers second]
    let log := (run.follow (scripted script) []).1
    shared.invoker.Spares .worker ∧ c.outputFormat = .json ∧ answers .worker log = [first, second] ∧
      ∃ output v, run.Logs log (some (.returned (.ok output))) ∧
        Table.get? output.outputs "response" = some (.text second) ∧
        Table.get? output.outputs "data" = some v ∧
        Json.parse (Structured.extract second) = .ok v ∧ Structured.Conforms v countSchema := by
  intro shared c b run first second script log
  have hspares := ModelBlocks.spares_mailroom
  have hanswers : answers .worker log = [first, second] := by decide +kernel
  have hlogs : run.Logs log _ := logs_follow run []
  have hcompleted : (run.follow (scripted script) []).2.result.isOk = true := by decide +kernel
  obtain ⟨output, hend⟩ : ∃ output,
      (run.follow (scripted script) []).2 = .returned (.ok output) := by
    generalize (run.follow (scripted script) []).2 = ending at hcompleted
    rcases ending with (e | output) | reason
    · cases hcompleted
    · exact ⟨output, rfl⟩
    · cases hcompleted
  rw [hend] at hlogs
  obtain ⟨answer, v, hlast, hresponse, hdata, hparse, hconforms⟩ :=
    (structured_outputs rfl hspares rfl rfl hlogs).1 output rfl
  rw [hanswers] at hlast
  cases hlast
  exact ⟨hspares, rfl, hanswers, output, v, hlogs, hresponse, hdata, hparse,
    hconforms countSchema rfl⟩

end Blockflow
