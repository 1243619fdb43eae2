import Blockflow.Proofs.Provider.Cutting
import Blockflow.Proofs.Utf8

/-!
# Events that are written and read

An event is written as lines: one for its type, if it has one, and one for each line of its data,
with a blank line behind them.  Lines that tell nothing may come in between, and every line may end
with a carriage return or without.  What is read from such lines is what was written, whatever the
data look like: each of their lines has a name in front of it, so that no line of an event is blank
and none is taken for another one.

* `Row`, `ServerEvent.Tells`, **`ServerEvent.Written`** — events as they are written.
* `withoutReturns_encode`, `not_blankLine_isInfix_lines` — the bytes of lines.
* `ServerEvent.exists_written` — whatever events can be written are written in some way.
* `ServerEvent.Tells.ofBlock?_block` — the rows of an event are read as the event.
* `EventStream.exists_blocks_of_written` — the rows of events are the blocks of the stream.
* **`EventParser.feed_written`** — what is written is read.
-/

namespace Blockflow

open String (utf8EncodeChar)

/-! ## How events are written -/

/-- A line, and whether a carriage return stands in front of its end. -/
structure Row where
  line : List Char
  returned : Bool

/-- The characters of a row. -/
def Row.chars (r : Row) : List Char := r.line ++ if r.returned then ['\r', '\n'] else ['\n']

namespace ServerEvent

/-- A line that tells nothing: a comment, or the id of an event. -/
def isSilent (line : List Char) : Bool :=
  [':'].isPrefixOf line || ['i', 'd', ':'].isPrefixOf line

/-- The lines that tell of an event: its type, if it has one, and each line of its data. -/
def telling (spaces : Nat) (e : ServerEvent) : List (List Char) :=
  (e.type.map fun t => "event:".toList ++ (List.replicate spaces ' ' ++ t.toList)).toList ++
    (e.data.toList.splitOn '\n').map fun line => "data: ".toList ++ line

/-- An event that can be written: no line ends in its type and no blanks in front of it, and no
carriage returns at all. -/
structure Writable (e : ServerEvent) : Prop where
  type : ∀ t, e.type = some t → '\n' ∉ t.toList ∧ '\r' ∉ t.toList ∧
    ∀ c, t.toList.head? = some c → Text.isBlank c = false
  data : '\r' ∉ e.data.toList

/-- **Rows that tell of an event**: the lines that tell of it, and among them lines that tell
nothing. -/
structure Tells (rows : List Row) (e : ServerEvent) : Prop where
  writable : e.Writable
  lines : ∀ r ∈ rows, '\n' ∉ r.line
  tells : ∃ spaces,
    (rows.map Row.line).filter (fun line => !isSilent line) = e.telling spaces

/-- **Events as they are written**: the rows of each, and a blank line behind them. -/
inductive Written : List ServerEvent → List Char → Prop
  | nil : Written [] []
  | cons {e : ServerEvent} {events : List ServerEvent} {rest : List Char} (rows : List Row)
    (returned : Bool) (tells : Tells rows e) (later : Written events rest) :
    Written (e :: events) (rows.flatMap Row.chars ++ (Row.chars ⟨[], returned⟩ ++ rest))

end ServerEvent

/-! ## Lines and their bytes -/

/-- The characters that count: all but carriage returns. -/
def stripped (cs : List Char) : List Char := cs.filter (· ≠ '\r')

lemma stripped_append (a b : List Char) : stripped (a ++ b) = stripped a ++ stripped b :=
  List.filter_append ..

lemma stripped_eq_self {cs : List Char} (h : '\r' ∉ cs) : stripped cs = cs :=
  List.filter_eq_self.mpr fun c hc => by simpa using ne_of_mem_of_not_mem hc h

/-- A carriage return is one byte, and that byte is no part of other characters. -/
lemma withoutReturns_encode (cs : List Char) :
    EventStream.withoutReturns (cs.flatMap utf8EncodeChar) =
      (stripped cs).flatMap utf8EncodeChar := by
  induction cs with
  | nil => rfl
  | cons c cs ih =>
      have hbytes : EventStream.withoutReturns (utf8EncodeChar c) =
          if c = '\r' then [] else utf8EncodeChar c := by
        split_ifs with hc
        · rw [hc]
          rfl
        · refine List.filter_eq_self.mpr fun b hb => ?_
          have hne : b ≠ 13 := by
            rintro rfl
            exact hc ((Utf8.mem_encodeChar_iff (by decide)).mp hb)
          simpa using hne
      rw [List.flatMap_cons, EventStream.withoutReturns, List.filter_append,
        ← EventStream.withoutReturns, ← EventStream.withoutReturns, hbytes, ih]
      by_cases hc : c = '\r' <;> simp [stripped, hc]

/-- The characters of a line that count. -/
def Row.content (r : Row) : List Char := stripped r.line

lemma Row.stripped_chars (r : Row) : stripped r.chars = r.content ++ ['\n'] := by
  have hend : stripped (if r.returned then ['\r', '\n'] else ['\n']) = ['\n'] := by
    cases r.returned <;> rfl
  rw [Row.chars, stripped_append, hend]
  rfl

lemma Row.stripped_flatMap_chars (rows : List Row) :
    stripped (rows.flatMap Row.chars) = (rows.map Row.content).flatMap (· ++ ['\n']) := by
  induction rows with
  | nil => rfl
  | cons r rows ih => rw [List.flatMap_cons, stripped_append, ih, stripped_chars]; rfl

/-- Lines that end, as lines between which there are ends. -/
lemma flatMap_append_singleton {α : Type} (x : α) {ls : List (List α)} (hls : ls ≠ []) :
    ls.flatMap (· ++ [x]) = [x].intercalate ls ++ [x] := by
  induction ls with
  | nil => exact absurd rfl hls
  | cons l ls ih =>
      cases ls with
      | nil => simp [List.intercalate]
      | cons l' ls =>
          rw [List.flatMap_cons, ih (List.cons_ne_nil _ _)]
          simp [List.intercalate]

/-- The bytes of lines that end. -/
lemma encode_lines (ls : List (List Char)) :
    (ls.flatMap (· ++ ['\n'])).flatMap utf8EncodeChar =
      (ls.map fun l => l.flatMap utf8EncodeChar).flatMap (· ++ [10]) := by
  simp only [List.flatMap_assoc, List.flatMap_append, List.flatMap_map]
  rfl

/-- No blank line begins in a line. -/
lemma blankLine_isInfix_append_iff {l bs : List UInt8} (hl : 10 ∉ l) :
    EventStream.blankLine <:+: l ++ bs ↔ EventStream.blankLine <:+: bs := by
  induction l with
  | nil => rfl
  | cons b l ih =>
      obtain ⟨hb, hl⟩ := not_or.mp (List.mem_cons.not.mp hl)
      rw [List.cons_append, EventParser.blankLine_isInfix_cons_iff, ih hl]
      exact or_iff_right fun h => hb h.1.symm

/-- **Among lines that are not blank there is no blank line.** -/
lemma not_blankLine_isInfix_lines {ls : List (List UInt8)} (hls : ∀ l ∈ ls, l ≠ [] ∧ 10 ∉ l) :
    ¬ EventStream.blankLine <:+: ls.flatMap (· ++ [10]) := by
  induction ls with
  | nil => simp [EventStream.blankLine]
  | cons l ls ih =>
      obtain ⟨hl, hls⟩ := List.forall_mem_cons.mp hls
      have hhead : (ls.flatMap (· ++ [10])).head? ≠ some 10 := by
        cases ls with
        | nil => simp
        | cons l' ls =>
            obtain ⟨⟨hne, hl'⟩, -⟩ := List.forall_mem_cons.mp hls
            obtain ⟨b, bs, rfl⟩ := List.exists_cons_of_ne_nil hne
            simpa [eq_comm] using (not_or.mp (List.mem_cons.not.mp hl')).1
      rw [List.flatMap_cons, List.append_assoc, blankLine_isInfix_append_iff hl.2,
        List.singleton_append, EventParser.blankLine_isInfix_cons_iff]
      rintro (⟨-, h⟩ | h)
      · exact hhead h
      · exact ih hls h

/-! ## The event of some lines -/

namespace ServerEvent

variable {e : ServerEvent} {line : List Char} {ls : List (List Char)} {rows : List Row}
  {spaces : Nat}

lemma field?_append (name line : List Char) : field? name (name ++ line) = some line := by
  rw [field?, if_pos (List.isPrefixOf_iff_prefix.mpr (List.prefix_append _ _)), List.drop_left]

lemma dataOf?_data (line : List Char) :
    dataOf? ("data: ".toList ++ line) = some (String.ofList line) := by
  have hsplit : "data: ".toList ++ line = "data:".toList ++ ' ' :: line := rfl
  rw [hsplit, dataOf?, field?_append]
  rfl

lemma typeOf?_data (line : List Char) : typeOf? ("data: ".toList ++ line) = none := rfl

/-- Spaces in front of a type do not count. -/
lemma typeOf?_type {t : String} (ht : ∀ c, t.toList.head? = some c → Text.isBlank c = false) :
    typeOf? ("event:".toList ++ (List.replicate spaces ' ' ++ t.toList)) = some t := by
  have hspaces : ∀ c ∈ List.replicate spaces ' ', Text.isBlank c = true := by
    intro c hc
    rw [(List.mem_replicate.mp hc).2]
    decide
  have hdrop : Text.dropBlanks (List.replicate spaces ' ' ++ t.toList) = t.toList := by
    rw [Text.dropBlanks, List.dropWhile_append_of_pos hspaces]
    cases hcs : t.toList with
    | nil => rfl
    | cons c cs => exact List.dropWhile_cons_of_neg (by simp [ht c (by rw [hcs]; rfl)])
  rw [typeOf?, field?_append, Option.map_some, hdrop, String.ofList_toList]

/-- Nothing is read from a line that tells nothing. -/
lemma read_silent (h : isSilent line = true) :
    dataOf? (stripped line) = none ∧ typeOf? (stripped line) = none ∧ stripped line ≠ [] := by
  rw [isSilent, Bool.or_eq_true, List.isPrefixOf_iff_prefix, List.isPrefixOf_iff_prefix] at h
  rcases h with ⟨rest, rfl⟩ | ⟨rest, rfl⟩ <;> rw [stripped_append]
  · exact ⟨rfl, rfl, List.cons_ne_nil _ _⟩
  · exact ⟨rfl, rfl, List.cons_ne_nil _ _⟩

/-- The event of a block is read from its lines. -/
lemma ofBlock?_encode {data : List String} (hls : ∀ l ∈ ls, '\n' ∉ l)
    (hdata : ls.filterMap dataOf? = data) (hne : data ≠ []) :
    ofBlock? ((['\n'].intercalate ls).flatMap utf8EncodeChar) = some
      { type := (ls.filterMap typeOf?).getLast?, data := String.intercalate "\n" data } := by
  have hls' : ls ≠ [] := by
    rintro rfl
    exact hne hdata.symm
  have hlines :
      lines (Utf8.decode ((['\n'].intercalate ls).flatMap utf8EncodeChar)).toList = ls := by
    rw [← Utf8.encode_ofList, Utf8.decode_encode, String.toList_ofList, lines,
      List.splitOn_intercalate '\n' hls hls']
  obtain ⟨d, data, rfl⟩ := List.exists_cons_of_ne_nil hne
  simp only [ofBlock?, hlines, hdata]

/-- What is read from rows is read from those that tell something. -/
lemma filterMap_content {β : Type} (f : List Char → Option β)
    (hsilent : ∀ line, isSilent line = true → f (stripped line) = none) (rows : List Row) :
    (rows.map Row.content).filterMap f =
      (((rows.map Row.line).filter (fun line => !isSilent line)).map stripped).filterMap f := by
  induction rows with
  | nil => rfl
  | cons r rows ih =>
      rw [List.map_cons, List.map_cons, List.filterMap_cons, ih, Row.content]
      cases hr : isSilent r.line with
      | true => rw [hsilent _ hr, List.filter_cons_of_neg (by simp [hr])]
      | false =>
          rw [List.filter_cons_of_pos (by simp [hr]), List.map_cons, List.filterMap_cons]

/-- The lines that tell of an event begin in one of two ways. -/
lemma mem_telling_iff : line ∈ e.telling spaces ↔
    (∃ t, e.type = some t ∧ "event:".toList ++ (List.replicate spaces ' ' ++ t.toList) = line) ∨
      ∃ l ∈ e.data.toList.splitOn '\n', "data: ".toList ++ l = line := by
  rw [telling, List.mem_append, Option.mem_toList, Option.map_eq_some_iff, List.mem_map]

/-- The lines of a text without carriage returns have none. -/
lemma not_mem_of_mem_splitOn {cs : List Char} (h : '\r' ∉ cs) (hl : line ∈ cs.splitOn '\n') :
    '\r' ∉ line := by
  intro hc
  have hmem : '\r' ∈ (cs.splitOn '\n').flatMap (· ++ ['\n']) :=
    List.mem_flatMap.mpr ⟨line, hl, List.mem_append_left _ hc⟩
  rw [flatMap_append_singleton '\n' (List.splitOn_ne_nil _ _), List.intercalate_splitOn] at hmem
  rcases List.mem_append.mp hmem with hmem | hmem
  · exact h hmem
  · simp at hmem

/-- A line that tells of an event has no carriage return. -/
lemma Writable.not_mem_of_mem_telling (h : e.Writable) (hl : line ∈ e.telling spaces) :
    '\r' ∉ line := by
  rcases mem_telling_iff.mp hl with ⟨t, ht, rfl⟩ | ⟨line, hline, rfl⟩
  · have hspaces : '\r' ∉ List.replicate spaces ' ' := by simp
    simp [hspaces, (h.type t ht).2.1]
  · have hfield : '\r' ∉ "data: ".toList := by decide
    rw [List.mem_append, not_or]
    exact ⟨hfield, not_mem_of_mem_splitOn h.data hline⟩

/-- The data on the lines that tell of an event. -/
lemma filterMap_dataOf?_telling (spaces : Nat) (e : ServerEvent) :
    (e.telling spaces).filterMap dataOf? = (e.data.toList.splitOn '\n').map String.ofList := by
  have htype : ((e.type.map fun t =>
      "event:".toList ++ (List.replicate spaces ' ' ++ t.toList)).toList).filterMap dataOf? =
        [] := by
    cases e.type <;> rfl
  rw [telling, List.filterMap_append, htype, List.nil_append, List.filterMap_map,
    ← List.filterMap_eq_map]
  exact congrArg (List.filterMap · _) (funext fun line => dataOf?_data line)

/-- The type on the lines that tell of an event. -/
lemma Writable.filterMap_typeOf?_telling (h : e.Writable) (spaces : Nat) :
    (e.telling spaces).filterMap typeOf? = e.type.toList := by
  have hdata : ((e.data.toList.splitOn '\n').map fun line =>
      "data: ".toList ++ line).filterMap typeOf? = [] := by
    rw [List.filterMap_map, List.filterMap_eq_nil_iff]
    exact fun line _ => typeOf?_data line
  rw [telling, List.filterMap_append, hdata, List.append_nil]
  cases ht : e.type with
  | none => rfl
  | some t =>
      rw [Option.map_some, Option.toList_some, List.filterMap_cons,
        typeOf?_type (h.type t ht).2.2]
      rfl

/-- Data are their lines. -/
lemma intercalate_data (e : ServerEvent) :
    String.intercalate "\n" ((e.data.toList.splitOn '\n').map String.ofList) = e.data := by
  have hlists : String.toList ∘ String.ofList = id := funext fun _ => String.toList_ofList
  have hend : "\n".toList = ['\n'] := rfl
  rw [← String.toList_inj, String.toList_intercalate, List.map_map, hlists, List.map_id, hend,
    List.intercalate_splitOn]

/-! ## Events that can be written -/

/-- No line of a text has a line end. -/
lemma lineEnd_not_mem_of_mem_splitOn {cs line : List Char} (hl : line ∈ cs.splitOn '\n') :
    '\n' ∉ line := by
  induction cs generalizing line with
  | nil =>
      rw [List.splitOn_nil, List.mem_singleton] at hl
      exact hl ▸ List.not_mem_nil
  | cons c cs ih =>
      rw [List.splitOn_cons_eq_if_modifyHead] at hl
      split_ifs at hl with hc
      · rcases List.mem_cons.mp hl with rfl | hl
        · exact List.not_mem_nil
        · exact ih hl
      · obtain ⟨first, others, hlines⟩ := List.exists_cons_of_ne_nil (List.splitOn_ne_nil '\n' cs)
        rw [hlines] at hl ih
        rcases List.mem_cons.mp hl with rfl | hl
        · have hne : '\n' ≠ c := fun h => hc (beq_iff_eq.mpr h.symm)
          exact List.not_mem_cons_of_ne_of_not_mem hne (ih List.mem_cons_self)
        · exact ih (List.mem_cons_of_mem _ hl)

/-- An event that can be written has rows, with nothing but the lines that tell of it. -/
lemma Writable.tells (h : e.Writable) :
    Tells ((e.telling 1).map fun line => ⟨line, false⟩) e where
  writable := h
  lines := by
    intro r hr
    obtain ⟨line, hline, rfl⟩ := List.mem_map.mp hr
    rcases mem_telling_iff.mp hline with ⟨t, ht, rfl⟩ | ⟨l, hl, rfl⟩
    · simp [(h.type t ht).1]
    · simp [lineEnd_not_mem_of_mem_splitOn hl]
  tells := by
    refine ⟨1, ?_⟩
    have hline : Row.line ∘ (fun line => Row.mk line false) = id := rfl
    rw [List.map_map, hline, List.map_id, List.filter_eq_self]
    intro line hline
    rcases mem_telling_iff.mp hline with ⟨t, -, rfl⟩ | ⟨l, -, rfl⟩
    · rfl
    · rfl

/-- **Whatever events can be written** are written in some way. -/
theorem exists_written {events : List ServerEvent} (h : ∀ e ∈ events, e.Writable) :
    ∃ text, Written events text := by
  induction events with
  | nil => exact ⟨[], .nil⟩
  | cons e events ih =>
      obtain ⟨he, hevents⟩ := List.forall_mem_cons.mp h
      obtain ⟨text, hwritten⟩ := ih hevents
      exact ⟨_, .cons _ false he.tells hwritten⟩

/-! ## The block of an event -/

/-- The bytes of rows that count, without the last line end. -/
def block (rows : List Row) : List UInt8 :=
  (['\n'].intercalate (rows.map Row.content)).flatMap utf8EncodeChar

namespace Tells

/-- **The rows of an event are read as the event.** -/
lemma ofBlock?_block (h : Tells rows e) : ofBlock? (block rows) = some e := by
  obtain ⟨spaces, htells⟩ := h.tells
  have hends : ∀ l ∈ rows.map Row.content, '\n' ∉ l := by
    intro l hl
    obtain ⟨r, hr, rfl⟩ := List.mem_map.mp hl
    exact fun hc => h.lines r hr (List.mem_of_mem_filter hc)
  have hstripped : (e.telling spaces).map stripped = e.telling spaces := by
    refine (List.map_congr_left fun l hl => ?_).trans (List.map_id _)
    exact stripped_eq_self (h.writable.not_mem_of_mem_telling hl)
  have hread : ∀ {β : Type} (f : List Char → Option β),
      (∀ line, isSilent line = true → f (stripped line) = none) →
        (rows.map Row.content).filterMap f = (e.telling spaces).filterMap f := by
    intro β f hsilent
    rw [filterMap_content f hsilent, htells, hstripped]
  have hdata := hread dataOf? fun line hl => (read_silent hl).1
  have htype := hread typeOf? fun line hl => (read_silent hl).2.1
  have hne : (e.data.toList.splitOn '\n').map String.ofList ≠ [] :=
    List.map_eq_nil_iff.not.mpr (List.splitOn_ne_nil _ _)
  rw [block, ofBlock?_encode hends (hdata.trans (filterMap_dataOf?_telling spaces e)) hne, htype,
    h.writable.filterMap_typeOf?_telling, intercalate_data]
  cases e with
  | mk type data => cases type <;> rfl

/-- An event has rows. -/
lemma ne_nil (h : Tells rows e) : rows ≠ [] := by
  rintro rfl
  obtain ⟨spaces, htells⟩ := h.tells
  exact List.splitOn_ne_nil _ _ (List.map_eq_nil_iff.mp (List.append_eq_nil_iff.mp htells.symm).2)

/-- No row of an event is blank. -/
lemma content_ne_nil (h : Tells rows e) {r : Row} (hr : r ∈ rows) : r.content ≠ [] := by
  obtain ⟨spaces, htells⟩ := h.tells
  cases hsilent : isSilent r.line with
  | true => exact (read_silent hsilent).2.2
  | false =>
      have hline : r.line ∈ e.telling spaces := by
        rw [← htells]
        exact List.mem_filter.mpr ⟨List.mem_map_of_mem hr, by simp [hsilent]⟩
      rw [Row.content, stripped_eq_self (h.writable.not_mem_of_mem_telling hline)]
      rcases mem_telling_iff.mp hline with ⟨t, -, ht⟩ | ⟨l, -, hl⟩
      · exact ht ▸ List.cons_ne_nil _ _
      · exact hl ▸ List.cons_ne_nil _ _

/-- The bytes of the rows that count are the block and a line end. -/
lemma encode_content (h : Tells rows e) :
    ((rows.map Row.content).flatMap (· ++ ['\n'])).flatMap utf8EncodeChar = block rows ++ [10] := by
  have hne : rows.map Row.content ≠ [] := List.map_eq_nil_iff.not.mpr h.ne_nil
  rw [flatMap_append_singleton '\n' hne, List.flatMap_append]
  rfl

/-- **There is no blank line before the end of the rows.** -/
lemma not_blankLine_isInfix (h : Tells rows e) :
    ¬ EventStream.blankLine <:+: block rows ++ [10] := by
  rw [← h.encode_content, encode_lines]
  refine not_blankLine_isInfix_lines fun l hl => ?_
  obtain ⟨line, hline, rfl⟩ := List.mem_map.mp hl
  obtain ⟨r, hr, rfl⟩ := List.mem_map.mp hline
  constructor
  · obtain ⟨c, cs, hcs⟩ := List.exists_cons_of_ne_nil (h.content_ne_nil hr)
    simp [hcs, String.utf8EncodeChar_ne_nil]
  · intro hmem
    obtain ⟨c, hc, hbyte⟩ := List.mem_flatMap.mp hmem
    obtain rfl : c = '\n' := (Utf8.mem_encodeChar_iff (by decide)).mp hbyte
    exact h.lines r hr (List.mem_of_mem_filter hc)

/-- Of rows and the blank line behind them, the block and its end count. -/
lemma withoutReturns_chars (h : Tells rows e) (returned : Bool) (rest : List Char) :
    EventStream.withoutReturns
        ((rows.flatMap Row.chars ++ (Row.chars ⟨[], returned⟩ ++ rest)).flatMap utf8EncodeChar) =
      block rows ++ EventStream.blankLine ++
        EventStream.withoutReturns (rest.flatMap utf8EncodeChar) := by
  have hend : utf8EncodeChar '\n' = [10] := rfl
  rw [withoutReturns_encode, withoutReturns_encode, stripped_append, stripped_append,
    Row.stripped_flatMap_chars, Row.stripped_chars, List.flatMap_append, List.flatMap_append,
    h.encode_content]
  simp [Row.content, stripped, EventStream.blankLine, hend]

end Tells

end ServerEvent

/-! ## The events of a stream -/

open ServerEvent (Written)

variable {events : List ServerEvent} {text : List Char}

/-- **The rows of events are the blocks of the stream**, and nothing is left behind them. -/
lemma EventStream.exists_blocks_of_written (h : Written events text) :
    ∃ blocks, Blocks (withoutReturns (text.flatMap utf8EncodeChar)) blocks [] ∧
      blocks.filterMap ServerEvent.ofBlock? = events := by
  induction h with
  | nil => exact ⟨[], ⟨rfl, by simp, by simp [blankLine]⟩, rfl⟩
  | cons rows returned tells later ih =>
      obtain ⟨blocks, hblocks, rfl⟩ := ih
      refine ⟨ServerEvent.block rows :: blocks, ⟨?_, ?_, hblocks.last⟩, ?_⟩
      · rw [tells.withoutReturns_chars, hblocks.spelled, List.flatMap_cons]
        simp only [List.append_assoc]
      · exact List.forall_mem_cons.mpr ⟨tells.not_blankLine_isInfix, hblocks.first⟩
      · rw [List.filterMap_cons, tells.ofBlock?_block]

/-- A blank line by itself is no event. -/
lemma EventParser.feed_blankLine : (feed {} [10, 10]).2 = [] := by
  have hblocks : EventStream.Blocks ([] ++ EventStream.withoutReturns [10, 10]) [[]] [] :=
    ⟨rfl, by decide, by decide⟩
  have hnone : ServerEvent.ofBlock? [] = none := by decide +kernel
  rw [feed_eq, events_of_blocks hblocks, List.filterMap_cons, hnone]
  rfl

/-- **What is written is read**: a parser that is fed the lines of events gives these events, in
their order, with their types and data, and keeps nothing back; and so does a stream that brings
the lines in pieces, wherever they are cut. -/
theorem EventParser.feed_written (h : Written events text) :
    feed {} (Utf8.encode (String.ofList text)) = ({}, events) ∧
      ∀ pieces : List (List UInt8), pieces.flatten = Utf8.encode (String.ofList text) →
        EventStream.read (pieces.map .ok) = (events, none) := by
  obtain ⟨blocks, hblocks, hevents⟩ := EventStream.exists_blocks_of_written h
  have hfeed : feed {} (Utf8.encode (String.ofList text)) = ({}, events) := by
    rw [Utf8.encode_ofList, feed_eq, List.nil_append, events_of_blocks hblocks, hevents]
  refine ⟨hfeed, fun pieces hpieces => ?_⟩
  rw [EventStream.read_pieces, hpieces, EventStream.read, EventStream.readFrom, hfeed]
  simp only [EventStream.readFrom, feed_blankLine, List.append_nil]

/-- The lines of two events, the first with lines that tell nothing and ends of both kinds. -/
def ServerEvent.greetings : List Row × List Row :=
  ([⟨": hello".toList, true⟩, ⟨"event: delta".toList, false⟩, ⟨"data: é".toList, true⟩,
      ⟨"id: 7".toList, false⟩, ⟨"data: ".toList, false⟩, ⟨"data:  data: x".toList, true⟩],
    [⟨"data: ".toList, false⟩])

/-- What stands on the lines of a greeting is not taken for a line of its own. -/
theorem EventParser.feed_written_greetings :
    let events : List ServerEvent :=
      [{ type := some "delta", data := "é\n\n data: x" }, { data := "" }]
    let text := ServerEvent.greetings.1.flatMap Row.chars ++ (Row.chars ⟨[], true⟩ ++
      (ServerEvent.greetings.2.flatMap Row.chars ++ (Row.chars ⟨[], false⟩ ++ [])))
    Written events text ∧
      feed {} (Utf8.encode (String.ofList text)) = ({}, events) ∧
      EventStream.read ((Utf8.encode (String.ofList text)).map fun b => .ok [b]) =
        (events, none) := by
  intro events text
  have hwritten : Written events text := by
    have hfirst : ServerEvent.Tells ServerEvent.greetings.1
        { type := some "delta", data := "é\n\n data: x" } := by
      refine ⟨⟨?_, by decide⟩, by decide, 1, by decide⟩
      rintro t ht
      obtain rfl := Option.some.inj ht
      refine ⟨by decide, by decide, fun c hc => ?_⟩
      obtain rfl := Option.some.inj hc
      decide
    have hsecond : ServerEvent.Tells ServerEvent.greetings.2 { data := "" } :=
      ⟨⟨by simp, by decide⟩, by decide, 0, by decide⟩
    exact .cons _ true hfirst (.cons _ false hsecond .nil)
  obtain ⟨hfeed, hread⟩ := feed_written hwritten
  refine ⟨hwritten, hfeed, ?_⟩
  have hpieces := hread ((Utf8.encode (String.ofList text)).map fun b => [b]) (by
    simp [← List.flatMap_def])
  rwa [List.map_map] at hpieces

end Blockflow
