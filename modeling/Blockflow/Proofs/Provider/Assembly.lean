import Blockflow.Proofs.Usage
import Blockflow.Turn
import Mathlib.Algebra.GroupWithZero.Nat
import Mathlib.Data.List.Basic
import Mathlib.Data.List.TakeWhile

/-!
# Tool calls put together from deltas

A model may write several tool calls at once.  Each delta of a call bears its index; deltas of other
calls, texts, counters and reasons to stop may come in between, and the arguments may be cut
anywhere.  What is put together for an index depends on the deltas that bear it alone, in their
order.

* `Turn.Interleaved` — deltas of some calls among others.
* `Turn.Stands` — the value that the arguments of a call stand for.
* `Turn.callAt_of_start` — the call at an index, once all of its deltas have come.
* `Turn.assembled_of_interleaved` — all calls.
* **`Turn.collect_of_interleaved`** — the turn.
-/

namespace Blockflow

/-- Nothing is left of a text between its blanks if it has nothing else. -/
lemma Text.trimChars_eq_nil_iff {cs : List Char} :
    trimChars cs = [] ↔ ∀ c ∈ cs, isBlank c = true := by
  have hdrop : trimChars cs = [] ↔ ∀ c ∈ dropBlanks cs, isBlank c = true := by
    simp [trimChars, dropBlanks, List.dropWhile_eq_nil_iff]
  rw [hdrop]
  constructor
  · intro h c hc
    rw [← List.takeWhile_append_dropWhile (p := isBlank) (l := cs), List.mem_append] at hc
    exact hc.elim List.mem_takeWhile_imp (h c)
  · exact fun h c hc => h c ((List.dropWhile_sublist _).mem hc)

/-! ## Parts of a stream -/

namespace Delta

/-- The index that the delta of a call bears. -/
def index? : Delta → Option Nat
  | .toolStart index _ _ | .toolInput index _ => some index
  | .text _ | .stop _ | .usage _ => none

/-- The text of a delta. -/
def text? : Delta → Option String
  | .text s => some s
  | _ => none

/-- Why the model stopped, if a delta says so. -/
def reason? : Delta → Option StopReason
  | .stop reason => some reason
  | _ => none

/-- The counters that a delta reports. -/
def usage? : Delta → Option TokenUsage
  | .usage u => some u
  | _ => none

/-- How many calls there are at least, once the delta has come. -/
def reach : Delta → Nat
  | .toolStart index _ _ => index + 1
  | _ => 0

end Delta

namespace Turn

variable {calls : List PartialCall} {c : PartialCall} {d : Delta} {ds : List Delta} {i : Nat}
  {parts : List String} {t : PartialTurn}

/-- **Deltas of some calls among others**: each of the calls begins once, and what else bears its
index are its arguments, piece by piece.  No delta bears another index. -/
structure Interleaved (calls : List PartialCall) (ds : List Delta) : Prop where
  ofCall : ∀ i c, calls[i]? = some c → ∃ parts,
    ds.filter (·.index? = some i) = .toolStart i c.id c.name :: parts.map (.toolInput i) ∧
      String.join parts = c.arguments
  within : ∀ d ∈ ds, ∀ i, d.index? = some i → i < calls.length

/-! ## What does not concern the calls -/

lemma text_foldl : (ds.foldl step t).text = t.text ++ String.join (ds.filterMap Delta.text?) := by
  induction ds generalizing t with
  | nil => simp
  | cons d ds ih =>
      rw [List.foldl_cons, ih]
      cases d <;> simp [step, List.filterMap_cons, Delta.text?, String.append_assoc]

lemma stopReason_foldl :
    (ds.foldl step t).stopReason = (ds.filterMap Delta.reason?).getLast?.or t.stopReason := by
  induction ds generalizing t with
  | nil => simp
  | cons d ds ih =>
      rw [List.foldl_cons, ih]
      cases d <;> simp [step, List.filterMap_cons, Delta.reason?, List.getLast?_cons]

lemma usage_foldl : (ds.foldl step t).usage = t.usage + (ds.filterMap Delta.usage?).sum := by
  induction ds generalizing t with
  | nil => simp
  | cons d ds ih =>
      rw [List.foldl_cons, ih]
      cases d <;> simp [step, List.filterMap_cons, Delta.usage?, add_assoc]

/-! ## The call at an index -/

/-- The calls that a delta leaves. -/
def assemble (calls : List PartialCall) (d : Delta) : List PartialCall := (step { calls } d).calls

/-- The call at an index, as far as it has come. -/
def callAt (calls : List PartialCall) (i : Nat) : PartialCall := calls[i]?.getD {}

lemma calls_foldl : (ds.foldl step t).calls = ds.foldl assemble t.calls := by
  induction ds generalizing t with
  | nil => rfl
  | cons d ds ih =>
      rw [List.foldl_cons, List.foldl_cons, ih]
      cases d <;> rfl

/-- Only where a call begins, the list of calls may grow. -/
lemma length_assemble : (assemble calls d).length = max calls.length d.reach := by
  cases d with
  | toolStart i id name =>
      simp only [assemble, step, startCall, Delta.reach, List.length_modify, List.length_append,
        List.length_replicate]
      omega
  | text | toolInput | stop | usage => simp [assemble, step, Delta.reach]

lemma lt_length_assemble (hi : i < calls.length) : i < (assemble calls d).length := by
  rw [length_assemble]
  exact Nat.lt_of_lt_of_le hi (Nat.le_max_left _ _)

/-- There is a call at an index if there was one before, or if a delta reached so far. -/
lemma lt_length_foldl_iff :
    i < (ds.foldl assemble calls).length ↔ i < calls.length ∨ ∃ d ∈ ds, i < d.reach := by
  induction ds generalizing calls with
  | nil => simp
  | cons d ds ih => simp [ih, length_assemble, or_assoc]

/-- A delta does not change the calls whose index it does not bear. -/
lemma callAt_assemble_of_ne (hd : d.index? ≠ some i) :
    callAt (assemble calls d) i = callAt calls i := by
  cases d with
  | toolStart j id name =>
      have hne : j ≠ i := fun h => hd (by rw [h]; rfl)
      simp only [callAt, assemble, step, startCall, List.getElem?_modify_ne _ _ hne]
      rcases Nat.lt_or_ge i calls.length with hi | hi
      · rw [List.getElem?_append_left hi]
      · rw [List.getElem?_append_right hi, List.getElem?_replicate, List.getElem?_eq_none hi]
        split_ifs <;> rfl
  | toolInput j part =>
      have hne : j ≠ i := fun h => hd (by rw [h]; rfl)
      simp only [callAt, assemble, step, List.getElem?_modify_ne _ _ hne]
  | text | stop | usage => rfl

/-- A call that begins keeps what was there of its arguments. -/
lemma callAt_assemble_toolStart (id name : String) :
    callAt (assemble calls (.toolStart i id name)) i = { callAt calls i with id, name } := by
  simp only [callAt, assemble, step, startCall, List.getElem?_modify_eq]
  rcases Nat.lt_or_ge i calls.length with hi | hi
  · rw [List.getElem?_append_left hi, List.getElem?_eq_getElem hi]
    rfl
  · rw [List.getElem?_append_right hi, List.getElem?_replicate, List.getElem?_eq_none hi,
      if_pos (by omega)]
    rfl

/-- Arguments are put behind those that have come. -/
lemma callAt_assemble_toolInput (hi : i < calls.length) (part : String) :
    callAt (assemble calls (.toolInput i part)) i =
      { callAt calls i with arguments := (callAt calls i).arguments ++ part } := by
  simp only [callAt, assemble, step, List.getElem?_modify_eq, List.getElem?_eq_getElem hi]
  rfl

/-- **Arguments that come in pieces**, with other deltas in between, are put together. -/
lemma callAt_of_parts (hi : i < calls.length)
    (hparts : ds.filter (·.index? = some i) = parts.map (.toolInput i)) :
    callAt (ds.foldl assemble calls) i =
      { callAt calls i with arguments := (callAt calls i).arguments ++ String.join parts } := by
  induction ds generalizing calls parts with
  | nil =>
      obtain rfl : parts = [] := by simpa using hparts.symm
      simp
  | cons d ds ih =>
      rw [List.foldl_cons]
      by_cases hd : d.index? = some i
      · rw [List.filter_cons_of_pos (by simpa using hd)] at hparts
        obtain ⟨part, parts, rfl⟩ : ∃ part rest, parts = part :: rest := by
          cases parts with
          | nil => cases hparts
          | cons part rest => exact ⟨part, rest, rfl⟩
        obtain ⟨rfl, hrest⟩ := List.cons.inj hparts
        rw [ih (lt_length_assemble hi) hrest, callAt_assemble_toolInput hi]
        simp [String.append_assoc]
      · rw [List.filter_cons_of_neg (by simpa using hd)] at hparts
        rw [ih (lt_length_assemble hi) hparts, callAt_assemble_of_ne hd]

/-- **A call is put together** from its beginning and its arguments, whatever comes in between. -/
lemma callAt_of_start {id name : String} (hcall : callAt calls i = {})
    (hstart : ds.filter (·.index? = some i) =
      .toolStart i id name :: parts.map (.toolInput i)) :
    callAt (ds.foldl assemble calls) i = ⟨id, name, String.join parts⟩ := by
  induction ds generalizing calls with
  | nil => cases hstart
  | cons d ds ih =>
      rw [List.foldl_cons]
      by_cases hd : d.index? = some i
      · rw [List.filter_cons_of_pos (by simpa using hd)] at hstart
        obtain ⟨rfl, hparts⟩ := List.cons.inj hstart
        have hlength : i < (assemble calls (.toolStart i id name)).length := by
          rw [length_assemble]
          exact Nat.lt_of_lt_of_le (Nat.lt_succ_self i) (Nat.le_max_right _ _)
        rw [callAt_of_parts hlength hparts, callAt_assemble_toolStart, hcall]
        simp
      · rw [List.filter_cons_of_neg (by simpa using hd)] at hstart
        exact ih (by rw [callAt_assemble_of_ne hd, hcall]) hstart

/-- A call begins among its deltas. -/
lemma Interleaved.mem (h : Interleaved calls ds) (hc : calls[i]? = some c) :
    .toolStart i c.id c.name ∈ ds := by
  obtain ⟨parts, hfilter, -⟩ := h.ofCall i c hc
  exact List.mem_of_mem_filter (hfilter ▸ List.mem_cons_self)

/-- **All calls are put together**, and nothing else. -/
theorem assembled_of_interleaved (h : Interleaved calls ds) : ds.foldl assemble [] = calls := by
  have hlength : ∀ i, i < (ds.foldl assemble []).length ↔ i < calls.length := by
    intro i
    rw [lt_length_foldl_iff]
    constructor
    · rintro (hi | ⟨d, hd, hi⟩)
      · cases hi
      · cases d with
        | toolStart j id name =>
            exact Nat.lt_of_le_of_lt (Nat.le_of_lt_succ hi) (h.within _ hd j rfl)
        | text | toolInput | stop | usage => cases hi
    · intro hi
      exact .inr ⟨_, h.mem (List.getElem?_eq_getElem hi), Nat.lt_succ_self i⟩
  refine List.ext_getElem? fun i => ?_
  rcases Nat.lt_or_ge i calls.length with hi | hi
  · obtain ⟨parts, hfilter, hparts⟩ := h.ofCall i _ (List.getElem?_eq_getElem hi)
    have hcall : callAt (ds.foldl assemble []) i = _ := callAt_of_start rfl hfilter
    rw [hparts, callAt, List.getElem?_eq_getElem ((hlength i).mpr hi), Option.getD_some] at hcall
    rw [List.getElem?_eq_getElem ((hlength i).mpr hi), List.getElem?_eq_getElem hi, hcall]
  · rw [List.getElem?_eq_none hi,
      List.getElem?_eq_none (Nat.le_of_not_lt fun h' => Nat.not_lt.mpr hi ((hlength i).mp h'))]

/-! ## The turn -/

/-- **What the arguments of a call stand for**: no members if there is nothing but blanks, else the
value that they spell, and null if they spell none. -/
inductive Stands (source : String) : Json → Prop
  | blank (hblank : ∀ c ∈ source.toList, Text.isBlank c = true) : Stands source (.object [])
  | spelled {v : Json} (hblank : ¬ ∀ c ∈ source.toList, Text.isBlank c = true)
    (hv : Json.parse? source = some v) : Stands source v
  | broken (hblank : ¬ ∀ c ∈ source.toList, Text.isBlank c = true)
    (hnone : Json.parse? source = none) : Stands source .null

lemma stands_argumentsValue (source : String) : Stands source (argumentsValue source) := by
  have hempty : (Text.trimChars source.toList).isEmpty = true ↔
      ∀ c ∈ source.toList, Text.isBlank c = true := by
    rw [List.isEmpty_iff, Text.trimChars_eq_nil_iff]
  rw [argumentsValue]
  split_ifs with h
  · exact .blank (hempty.mp h)
  · rw [hempty] at h
    cases hv : Json.parse? source with
    | some v => exact .spelled h hv
    | none => exact .broken h hv

/-- The counters of several reports add up, as long as they are words. -/
lemma toNat_sum (f : TokenUsage → UInt64) (hzero : f 0 = 0) (hadd : ∀ a b, f (a + b) = f a + f b)
    (us : List TokenUsage) : (f us.sum).toNat = (us.map fun u => (f u).toNat).sum % 2 ^ 64 := by
  induction us with
  | nil => simp [hzero]
  | cons u us ih =>
      rw [List.sum_cons, hadd, UInt64.toNat_add, ih]
      simp

/-- **A turn is put together from the deltas of its calls, in whatever order these come.**  Of some
calls with names, each begins once, at its index, and its arguments come behind that in any pieces;
deltas of the other calls, texts, counters and reasons to stop come anywhere.  Then the turn has
these calls in the order of their indices, each with its name, its id (one made from the index if it
has none) and the value that its arguments stand for; all texts, one behind the other; the last
reason to stop; and the sums of the counters, if they are words. -/
theorem collect_of_interleaved (hnamed : ∀ c ∈ calls, c.name ≠ "") (h : Interleaved calls ds) :
    ∃ turn, collect { deltas := ds } = .ok turn ∧
      turn.toolCalls.length = calls.length ∧
      (∀ (i : Nat) (c : PartialCall), calls[i]? = some c → ∃ v, Stands c.arguments v ∧
        turn.toolCalls[i]? =
          some { id := if c.id = "" then "call_" ++ toString i else c.id
                 name := c.name
                 input := v }) ∧
      turn.text = String.join (ds.filterMap Delta.text?) ∧
      turn.stopReason = (ds.filterMap Delta.reason?).getLast? ∧
      (let us := ds.filterMap Delta.usage?
       (us.map (·.input.toNat)).sum < 2 ^ 64 → (us.map (·.output.toNat)).sum < 2 ^ 64 →
         turn.usage.input.toNat = (us.map (·.input.toNat)).sum ∧
           turn.usage.output.toNat = (us.map (·.output.toNat)).sum) := by
  have hcalls : (ds.foldl step {}).calls = calls := by
    rw [calls_foldl]
    exact assembled_of_interleaved h
  have hfilter : calls.filter (fun c => !c.name.isEmpty) = calls := by
    rw [List.filter_eq_self]
    intro c hc
    simpa using hnamed c hc
  refine ⟨finish (ds.foldl step {}), rfl, ?_, ?_, ?_, ?_, ?_⟩
  · rw [finish, hcalls, hfilter, List.length_mapIdx]
  · intro i c hc
    refine ⟨_, stands_argumentsValue c.arguments, ?_⟩
    rw [finish, hcalls, hfilter, List.getElem?_mapIdx, hc]
    simp [finishCall]
  · simp [finish, text_foldl]
  · simp [finish, stopReason_foldl]
  · intro us hinput houtput
    have husage : (finish (ds.foldl step {})).usage = us.sum := by
      rw [finish, usage_foldl]
      exact zero_add _
    rw [husage, toNat_sum (·.input) rfl (fun _ _ => rfl), toNat_sum (·.output) rfl (fun _ _ => rfl),
      Nat.mod_eq_of_lt hinput, Nat.mod_eq_of_lt houtput]
    exact ⟨rfl, rfl⟩

/-- Two calls for the example that follows. -/
def twoCalls : List PartialCall :=
  [⟨"a", "mail", "\x7b\"to\": 1\x7d"⟩, ⟨"", "list", " "⟩]

/-- The second call begins before the first one, and the arguments of that come in three pieces. -/
theorem collect_of_interleaved_two :
    let ds : List Delta :=
      [.toolStart 1 "" "list", .text "I ", .toolStart 0 "a" "mail", .toolInput 0 "\x7b\"to",
        .usage ⟨7, 3⟩, .toolInput 1 " ", .toolInput 0 "\": ", .stop .endTurn, .text "will",
        .toolInput 0 "1\x7d", .usage ⟨1, 2⟩, .stop .toolUse]
    Interleaved twoCalls ds ∧ ∃ turn, collect { deltas := ds } = .ok turn ∧
      turn.toolCalls.length = 2 ∧ turn.text = "I will" ∧ turn.stopReason = some .toolUse ∧
      turn.usage.input.toNat = 8 ∧
      ∃ v, Stands " " v ∧ turn.toolCalls[1]? = some ⟨"call_1", "list", v⟩ := by
  intro ds
  have hinterleaved : Interleaved twoCalls ds := by
    refine ⟨fun i c hc => ?_, by decide⟩
    match i, hc with
    | 0, hc =>
        obtain rfl := Option.some.inj hc
        exact ⟨["\x7b\"to", "\": ", "1\x7d"], by decide, by decide⟩
    | 1, hc =>
        obtain rfl := Option.some.inj hc
        exact ⟨[" "], by decide, by decide⟩
  obtain ⟨turn, hturn, hlength, hcalls, htext, hreason, husage⟩ :=
    collect_of_interleaved (by decide) hinterleaved
  exact ⟨hinterleaved, turn, hturn, hlength, htext, hreason, (husage (by decide) (by decide)).1,
    hcalls 1 _ rfl⟩

end Turn

end Blockflow
