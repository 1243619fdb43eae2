import Blockflow.Checker
import Blockflow.Proofs.Json.Codec
import Blockflow.Proofs.Run.Events
import Blockflow.Proofs.Structured

/-!
# Verdicts that are spelled out

A checking model answers with an object that tells whether the block passed, and why.  Whatever
else the object holds, such an answer is that verdict, and where verdicts count a negative one fails
the block.  Only an answer that quotes two fences is cut between them; and as everything that is no
verdict lets the block pass, so does what is left of it.

* `Json.Once` — a name that stands once among members.
* **`Json.Fields.collect_cons_once`** — the fields of a record are met one by one.
* **`Verdict.ofAnswer_spelled`** — the verdict of an answer that spells it out.
-/

namespace Blockflow

namespace Json

variable {α β σ : Type} {source : Source} {ms ms' : List (String × Draft)}

/-! ## Fields that are given once -/

/-- **A name that stands once among members**, with this draft. -/
def Once (ms : List (String × Draft)) (name : String) (d : Draft) : Prop :=
  ms.filter (fun m => m.1 = name) = [(name, d)]

/-- What stands in front of it and behind it has other names. -/
lemma Once.split {name : String} {d : Draft} (h : Once ms name d) :
    ∃ front back, ms = front ++ (name, d) :: back ∧
      (∀ m ∈ front, m.1 ≠ name) ∧ ∀ m ∈ back, m.1 ≠ name := by
  obtain ⟨front, back, rfl, hfront, -, hback⟩ := List.filter_eq_cons_iff.mp h
  refine ⟨front, back, rfl, ?_, ?_⟩
  · simpa using hfront
  · simpa using List.filter_eq_nil_iff.mp hback

namespace Fields

variable {fs : Fields σ α} {f : Field β} {k : String} {d : Draft}

/-- What comes of one member. -/
def meet (fs : Fields σ α) (source : Source) (slots : σ) (k : String) (d : Draft) :
    Except Fault σ :=
  (fs.offer source k d slots).getD <|
    match d.skipFault? with
    | some f => .error f
    | none => .ok slots

lemma collect_named_cons (slots : σ) :
    fs.collect source slots (Draft.named ((k, d) :: ms)) =
      (fs.meet source slots k d).bind fun slots => fs.collect source slots (Draft.named ms) := by
  change fs.collect source slots ((.text k, d) :: Draft.named ms) = _
  rw [collect, meet]
  cases fs.offer source k d slots with
  | some r => cases r <;> rfl
  | none => cases d.skipFault? <;> rfl

/-- Members are met in their order. -/
lemma collect_named_append (slots : σ) :
    fs.collect source slots (Draft.named (ms ++ ms')) =
      (fs.collect source slots (Draft.named ms)).bind fun slots =>
        fs.collect source slots (Draft.named ms') := by
  induction ms generalizing slots with
  | nil => rfl
  | cons m ms ih =>
      rw [List.cons_append, collect_named_cons, collect_named_cons]
      cases fs.meet source slots m.1 m.2 with
      | error e => rfl
      | ok slots => exact ih slots

/-- Members of other names do not touch a field. -/
lemma collect_cons_absent (h : ∀ m ∈ ms, m.1 ≠ f.name) (o : Option β) (slots : σ) :
    (cons f fs).collect source (o, slots) (Draft.named ms) =
      (fs.collect source slots (Draft.named ms)).map fun slots => (o, slots) := by
  induction ms generalizing slots with
  | nil => rfl
  | cons m ms ih =>
      obtain ⟨hm, hms⟩ := List.forall_mem_cons.mp h
      have hmeet : (cons f fs).meet source (o, slots) m.1 m.2 =
          (fs.meet source slots m.1 m.2).map fun slots => (o, slots) := by
        rw [meet, meet, offer_cons_of_ne hm]
        cases fs.offer source m.1 m.2 slots with
        | some r => rfl
        | none => cases m.2.skipFault? <;> rfl
      rw [collect_named_cons, collect_named_cons, hmeet]
      cases fs.meet source slots m.1 m.2 with
      | error e => rfl
      | ok slots => exact ih hms slots

/-- **The fields of a record are met one by one**: a field takes the member of its name, and those
behind it are offered the others. -/
lemma collect_cons_once {x : β} (h : Once ms f.name d) (hread : f.codec.read source d = .ok x)
    (hunknown : ∀ slots, fs.offer source f.name d slots = none) (hcomplete : d.skipFault? = none)
    (slots : σ) :
    (cons f fs).collect source (none, slots) (Draft.named ms) =
      (fs.collect source slots (Draft.named ms)).map fun slots => (some x, slots) := by
  -- the field meets the one member that the fields behind it skip
  obtain ⟨front, back, rfl, hfront, hback⟩ := h.split
  have hself : ∀ slots, (cons f fs).meet source (none, slots) f.name d = .ok (some x, slots) := by
    intro slots
    rw [meet, offer_cons_self, hread]
    rfl
  have hskip : ∀ slots, fs.meet source slots f.name d = .ok slots := by
    intro slots
    rw [meet, hunknown, hcomplete]
    rfl
  rw [collect_named_append, collect_named_append, collect_cons_absent hfront]
  cases fs.collect source slots (Draft.named front) with
  | error e => rfl
  | ok slots =>
      simp only [Except.map, Except.bind, collect_named_cons, hself, hskip]
      exact collect_cons_absent hback (some x) slots

/-- Without fields, members are skipped. -/
lemma collect_done (h : ∀ m ∈ ms, m.2.skipFault? = none) :
    done.collect source () (Draft.named ms) = .ok () := by
  induction ms with
  | nil => rfl
  | cons m ms ih =>
      obtain ⟨hm, hms⟩ := List.forall_mem_cons.mp h
      rw [collect_named_cons, meet, hm]
      exact ih hms

end Fields

end Json

namespace Verdict

variable {answer : String} {ms : List (String × Json.Draft)} {v : Verdict}

/-- The field behind the first one. -/
def reasonField : Json.Fields (Option String × Unit) (String × Unit) :=
  .defaulted "reason" .text "" .done

/-- The fields of a verdict. -/
def fields : Json.Fields (Option Bool × Option String × Unit) (Bool × String × Unit) :=
  .required "passed" .bool reasonField

lemma codec_read_object (members : List (Json.Draft.Key × Json.Draft)) :
    codec.read .start (.object members) =
      ((fields.collect (.text 127) (none, none, ()) members).bind fields.finish).map
        fun (passed, reason, ()) => ⟨passed, reason⟩ := rfl

/-- What is met of an object with one `passed` and one `reason`. -/
lemma collect_fields {source : Json.Source} (hcomplete : ∀ m ∈ ms, m.2.skipFault? = none)
    (hpassed : Json.Once ms "passed" (.bool v.passed))
    (hreason : Json.Once ms "reason" (.text v.reason)) :
    fields.collect source (none, none, ()) (Json.Draft.named ms) =
      .ok (some v.passed, some v.reason, ()) := by
  have hunknown : ∀ slots, reasonField.offer source "passed" (.bool v.passed) slots = none :=
    fun slots => Json.Fields.offer_cons_of_ne (by decide) source _ slots
  have hbehind : reasonField.collect source (none, ()) (Json.Draft.named ms) =
      .ok (some v.reason, ()) := by
    refine (Json.Fields.collect_cons_once hreason rfl (fun _ => rfl) rfl ()).trans ?_
    rw [Json.Fields.collect_done hcomplete]
    rfl
  refine (Json.Fields.collect_cons_once hpassed rfl hunknown rfl (none, ())).trans ?_
  rw [hbehind]
  rfl

/-- An object with one `passed` and one `reason` is read as that verdict. -/
lemma ofText_of_lists {text : String} (h : Json.Document.Lists text ms)
    (hpassed : Json.Once ms "passed" (.bool v.passed))
    (hreason : Json.Once ms "reason" (.text v.reason)) : codec.ofText text = .ok v := by
  have hread : codec.read .start (.object (Json.Draft.named ms)) = .ok v := by
    rw [codec_read_object, collect_fields h.complete hpassed hreason]
    rfl
  rw [Json.Codec.ofText, Json.Codec.decode, h.read]
  dsimp only
  rw [hread]
  rfl

/-- **An answer that spells out a verdict is that verdict**, if it does not quote two fences, and a
negative one fails the block where verdicts count. -/
theorem ofAnswer_spelled (h : Json.Document.Lists (Text.trim answer) ms)
    (hpassed : Json.Once ms "passed" (.bool v.passed))
    (hreason : Json.Once ms "reason" (.text v.reason))
    (hunfenced : Structured.Unfenced (Text.trim answer).toList) :
    ofAnswer answer = v ∧
      (v.passed = false → ∀ (s : RunSetup) (r : Run) (i : Nat) (e : BlockEnd),
        s.Planned → s.authoritative = true → r.cells.length = s.size → i < s.size →
          e.verdict = some (ofAnswer answer) → (Run.finish s r i e).status i = .failed) := by
  have hverdict : ofAnswer answer = v := by
    unfold ofAnswer
    rw [Structured.extract_of_lists h hunfenced, ofText_of_lists h hpassed hreason]
  refine ⟨hverdict, fun hnegative s r i e hs hauthoritative hsize hi he => ?_⟩
  rw [hverdict] at he
  have hfailure : ∃ failure, e.failure? s.authoritative = some failure := by
    rw [hauthoritative, BlockEnd.failure?]
    split
    · exact ⟨_, rfl⟩
    · rw [BlockEnd.rejection, he]
      simp [hnegative]
  obtain ⟨failure, hfailure⟩ := hfailure
  have hlength : (Run.noted s r i e).cells.length = s.size := by rw [Run.length_noted, hsize]
  rw [Run.finish_eq, hfailure]
  exact Run.status_fail_self hs hlength failure (hlength ▸ hi)

/-- A negative verdict with a brace and a fence in its reason, between blanks. -/
def negative : String :=
  "\n \x7b\"score\": [true], \"reason\": \"no \x7d or \x60\x60\x60 here\", \"passed\": false\x7d "

/-- The members of that answer. -/
def negativeMembers : List (String × Json.Draft) :=
  [("score", .array [.bool true]), ("reason", .text "no \x7d or \x60\x60\x60 here"),
    ("passed", .bool false)]

/-- The answer spells out its verdict, which fails the block. -/
theorem ofAnswer_spelled_negative :
    Json.Document.Lists (Text.trim negative) negativeMembers ∧
      Json.Once negativeMembers "passed" (.bool false) ∧
      Json.Once negativeMembers "reason" (.text "no \x7d or \x60\x60\x60 here") ∧
      Structured.Unfenced (Text.trim negative).toList ∧
      ofAnswer negative = ⟨false, "no \x7d or \x60\x60\x60 here"⟩ ∧
      ∀ (s : RunSetup) (r : Run) (i : Nat) (e : BlockEnd),
        s.Planned → s.authoritative = true → r.cells.length = s.size → i < s.size →
          e.verdict = some (ofAnswer negative) → (Run.finish s r i e).status i = .failed := by
  have hread : Json.Document.read (Text.trim negative) =
      ⟨.object (Json.Draft.named negativeMembers), false⟩ := by cbv
  have hlists : Json.Document.Lists (Text.trim negative) negativeMembers :=
    ⟨hread, by decide⟩
  have hpassed : Json.Once negativeMembers "passed" (.bool false) := by cbv
  have hreason : Json.Once negativeMembers "reason" (.text "no \x7d or \x60\x60\x60 here") := by
    cbv
  have hunfenced : Structured.Unfenced (Text.trim negative).toList :=
    Structured.fenced?_fence_eq_none_iff.mp (by cbv)
  have hspelled := ofAnswer_spelled (v := ⟨false, _⟩) hlists hpassed hreason hunfenced
  exact ⟨hlists, hpassed, hreason, hunfenced, hspelled.1, hspelled.2 rfl⟩

/-- A negative verdict that quotes a fenced block in its reason. -/
def quoting : String :=
  "\x7b\"passed\": false, \"reason\": \"the reply \x60\x60\x60x\x60\x60\x60 is no summary\"\x7d"

/-- **A negative verdict that quotes a fenced block lets the block pass**, also where verdicts
count. -/
theorem ofAnswer_quoting :
    Json.parse quoting = .ok (.object [("passed", .bool false),
        ("reason", .text "the reply \x60\x60\x60x\x60\x60\x60 is no summary")]) ∧
      ofAnswer quoting = ⟨true, ""⟩ ∧
      ∀ output usage,
        BlockEnd.failure? true ⟨.ok output, some (ofAnswer quoting), usage⟩ = none := by
  have hread : Json.Document.read quoting =
      ⟨.object [(.text "passed", .bool false),
        (.text "reason", .text "the reply \x60\x60\x60x\x60\x60\x60 is no summary")], false⟩ := by
    cbv
  have hinside : Structured.extract quoting = "x" := by cbv
  have hx : Json.Document.read "x" = ⟨.stop .noValue, false⟩ := by rfl
  have hverdict : ofAnswer quoting = ⟨true, ""⟩ := by
    unfold ofAnswer
    rw [hinside, Json.Codec.ofText, Json.Codec.decode, hx]
    rfl
  refine ⟨Json.Document.parse_of_read hread rfl, hverdict, fun output usage => ?_⟩
  rw [hverdict]
  rfl

end Verdict

end Blockflow
