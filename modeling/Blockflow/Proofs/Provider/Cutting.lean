import Blockflow.Provider.Wire
import Mathlib.Data.List.Basic
import Mathlib.Data.List.Infix

/-!
# Streams cut into pieces

A network cuts the bytes of an answer wherever it likes: inside a character, between a carriage
return and its line end, between the two line ends of a blank line.  What the answer says depends
on its bytes alone.  They fall into blocks, each up to the first blank line that is left, and the
events are those of the blocks; so a parser that has read some pieces holds what is behind the last
blank line of them, and goes on as if the pieces had come as one.

* `EventStream.Blocks` — the blocks of some bytes, and what is behind them.
* `EventParser.cut?_eq_some_iff`, `EventParser.cut?_eq_none_iff` — the first blank line.
* `EventParser.events_of_blocks` — the events are those of the blocks.
* **`EventParser.events_append`** — reading goes on where it stopped.
* `EventStream.readFrom_pieces` — pieces are read as one.
* **`Stream.ofPieces_of_cut`** — an answer and its turn do not depend on the cuts.
-/

namespace Blockflow

/-! ## Blocks -/

namespace EventStream

/-- The bytes that count: all but carriage returns. -/
def withoutReturns (bs : List UInt8) : List UInt8 := bs.filter (· ≠ 13)

/-- The two line ends of a blank line. -/
def blankLine : List UInt8 := [10, 10]

/-- **The blocks of some bytes, and what is behind them**: every block is followed by a blank line,
and no blank line begins before that or is left behind. -/
structure Blocks (bs : List UInt8) (blocks : List (List UInt8)) (rest : List UInt8) : Prop where
  spelled : bs = (blocks.flatMap fun block => block ++ blankLine) ++ rest
  first : ∀ block ∈ blocks, ¬ blankLine <:+: block ++ [10]
  last : ¬ blankLine <:+: rest

end EventStream

open EventStream

namespace EventParser

variable {bs block rest : List UInt8}

/-- A blank line begins with the first byte or behind it. -/
lemma blankLine_isInfix_cons_iff {b : UInt8} :
    blankLine <:+: b :: bs ↔ (b = 10 ∧ bs.head? = some 10) ∨ blankLine <:+: bs := by
  rw [List.infix_cons_iff]
  refine or_congr_left ?_
  cases bs with
  | nil => simp [blankLine]
  | cons c bs => simp [blankLine, eq_comm]

/-- **Where no blank line is found, there is none.** -/
lemma cut?_eq_none_iff : cut? bs = none ↔ ¬ blankLine <:+: bs := by
  induction bs with
  | nil => simp [cut?, blankLine]
  | cons b bs ih =>
      rw [cut?, blankLine_isInfix_cons_iff]
      by_cases h : b = 10 ∧ bs.head? = some 10
      · simp [h]
      · simp [h, ih]

/-- **The bytes are cut at the first blank line.** -/
lemma cut?_eq_some_iff : cut? bs = some (block, rest) ↔
    bs = block ++ blankLine ++ rest ∧ ¬ blankLine <:+: block ++ [10] := by
  induction bs generalizing block with
  | nil => simp [cut?, blankLine]
  | cons b bs ih =>
      rw [cut?]
      by_cases h : b = 10 ∧ bs.head? = some 10
      · obtain ⟨rfl, hhead⟩ := h
        obtain ⟨bs, rfl⟩ := List.head?_eq_some_iff.mp hhead
        cases block with
        | nil =>
            have hsingle : ¬ [10, 10] <:+: ([10] : List UInt8) := by decide
            simp [blankLine, eq_comm, hsingle]
        | cons c block =>
            -- a block that goes on behind these line ends has them in it
            have hsecond : 10 :: bs = block ++ blankLine ++ rest →
                (block ++ [10]).head? = some 10 := by
              intro heq
              cases block with
              | nil => rfl
              | cons d block => cases heq; rfl
            simp only [List.head?_cons, List.tail_cons, List.cons_append, decide_true,
              Bool.and_self, if_true, Option.some.injEq, Prod.mk.injEq, reduceCtorEq, false_and,
              List.cons.injEq, blankLine_isInfix_cons_iff, false_iff, not_and, not_not]
            rintro ⟨rfl, heq⟩
            exact .inl ⟨rfl, hsecond heq⟩
      · have hcond : (decide (b = 10) && decide (bs.head? = some 10)) = false := by
          simpa [not_and] using h
        rw [hcond, if_neg Bool.false_ne_true]
        cases block with
        | nil =>
            have hne : b :: bs ≠ blankLine ++ rest := by
              intro heq
              cases heq
              exact h ⟨rfl, rfl⟩
            simp [hne]
        | cons c block =>
            have hhead : bs = block ++ blankLine ++ rest → (block ++ [10]).head? = bs.head? := by
              rintro rfl
              cases block <;> rfl
            simp only [Option.map_eq_some_iff, Prod.exists, Prod.mk.injEq, List.cons.injEq,
              List.cons_append, blankLine_isInfix_cons_iff]
            constructor
            · rintro ⟨block', rest', hcut, ⟨rfl, rfl⟩, rfl⟩
              obtain ⟨heq, hfirst⟩ := ih.mp hcut
              refine ⟨⟨rfl, heq⟩, ?_⟩
              rw [hhead heq, not_or]
              exact ⟨h, hfirst⟩
            · rintro ⟨⟨rfl, heq⟩, hfirst⟩
              exact ⟨block, rest, ih.mpr ⟨heq, fun h => hfirst (.inr h)⟩, ⟨rfl, rfl⟩, rfl⟩

/-! ## Events -/

lemma events_of_cut?_eq_none (h : cut? bs = none) : events bs = ([], bs) := by
  rw [events]
  split
  · rfl
  · next heq => rw [h] at heq; cases heq

lemma events_of_cut?_eq_some (h : cut? bs = some (block, rest)) :
    events bs = ((ServerEvent.ofBlock? block).toList ++ (events rest).1, (events rest).2) := by
  rw [events]
  split
  · next heq => rw [h] at heq; cases heq
  · next heq =>
      rw [h] at heq
      cases heq
      rfl

/-- **The events are those of the blocks**, and what is behind the blocks is kept. -/
theorem events_of_blocks {blocks : List (List UInt8)} (h : Blocks bs blocks rest) :
    events bs = (blocks.filterMap ServerEvent.ofBlock?, rest) := by
  induction blocks generalizing bs with
  | nil =>
      obtain rfl : bs = rest := h.spelled
      exact events_of_cut?_eq_none (cut?_eq_none_iff.mpr h.last)
  | cons block blocks ih =>
      have hbs : bs = block ++ blankLine ++
          ((blocks.flatMap fun block => block ++ blankLine) ++ rest) := by
        rw [h.spelled, List.flatMap_cons, List.append_assoc]
      have hcut := cut?_eq_some_iff.mpr ⟨hbs, h.first block List.mem_cons_self⟩
      have hblocks :
          Blocks ((blocks.flatMap fun block => block ++ blankLine) ++ rest) blocks rest :=
        ⟨rfl, fun b hb => h.first b (List.mem_cons_of_mem _ hb), h.last⟩
      rw [events_of_cut?_eq_some hcut, ih hblocks, List.filterMap_cons]
      cases ServerEvent.ofBlock? block <;> rfl

/-- All bytes fall into blocks. -/
lemma exists_blocks (bs : List UInt8) : ∃ blocks rest, Blocks bs blocks rest := by
  induction hlength : bs.length using Nat.strong_induction_on generalizing bs with
  | _ n ih =>
      cases hcut : cut? bs with
      | none => exact ⟨[], bs, rfl, by simp, cut?_eq_none_iff.mp hcut⟩
      | some r =>
          obtain ⟨block, behind⟩ := r
          obtain ⟨blocks, rest, hblocks⟩ :=
            ih behind.length (hlength ▸ length_of_cut? hcut) behind rfl
          obtain ⟨hbs, hfirst⟩ := cut?_eq_some_iff.mp hcut
          refine ⟨block :: blocks, rest, ?_, List.forall_mem_cons.mpr ⟨hfirst, hblocks.first⟩,
            hblocks.last⟩
          rw [hbs, hblocks.spelled, List.flatMap_cons]
          simp only [List.append_assoc]

/-- **Reading goes on where it stopped**: the first bytes give their events, and what they leave
is read with the bytes that follow. -/
theorem events_append (front back : List UInt8) :
    events (front ++ back) =
      ((events front).1 ++ (events ((events front).2 ++ back)).1,
        (events ((events front).2 ++ back)).2) := by
  induction hlength : front.length using Nat.strong_induction_on generalizing front with
  | _ n ih =>
      cases hcut : cut? front with
      | none => rw [events_of_cut?_eq_none hcut, List.nil_append]
      | some r =>
          obtain ⟨block, rest⟩ := r
          obtain ⟨hfront, hfirst⟩ := cut?_eq_some_iff.mp hcut
          have hlonger : cut? (front ++ back) = some (block, rest ++ back) :=
            cut?_eq_some_iff.mpr ⟨by rw [hfront, List.append_assoc], hfirst⟩
          rw [events_of_cut?_eq_some hcut, events_of_cut?_eq_some hlonger,
            ih rest.length (hlength ▸ length_of_cut? hcut) rest rfl, List.append_assoc]

/-- What is kept has no blank line in it. -/
lemma cut?_events (bs : List UInt8) : cut? (events bs).2 = none := by
  obtain ⟨blocks, rest, h⟩ := exists_blocks bs
  rw [events_of_blocks h]
  exact cut?_eq_none_iff.mpr h.last

lemma feed_eq (buffer piece : List UInt8) :
    feed ⟨buffer⟩ piece =
      (⟨(events (buffer ++ withoutReturns piece)).2⟩,
        (events (buffer ++ withoutReturns piece)).1) := rfl

end EventParser

/-! ## Pieces -/

namespace EventStream

open EventParser

/-- **Pieces are read as one**: their events are those of all their bytes, and reading goes on with
what is behind these. -/
theorem readFrom_pieces (pieces : List (List UInt8)) (behind : List Piece) :
    ∀ buffer, cut? buffer = none →
      readFrom ⟨buffer⟩ (pieces.map .ok ++ behind) =
        let r := events (buffer ++ withoutReturns pieces.flatten)
        (r.1 ++ (readFrom ⟨r.2⟩ behind).1, (readFrom ⟨r.2⟩ behind).2) := by
  induction pieces with
  | nil =>
      intro buffer hbuffer
      simp [withoutReturns, events_of_cut?_eq_none hbuffer]
  | cons piece pieces ih =>
      intro buffer _
      have hsplit : buffer ++ withoutReturns (piece :: pieces).flatten =
          (buffer ++ withoutReturns piece) ++ withoutReturns pieces.flatten := by
        simp [withoutReturns]
      rw [hsplit, events_append, List.map_cons, List.cons_append, readFrom, feed_eq]
      simp only [ih _ (cut?_events _), List.append_assoc]

/-- The pieces of a stream that ends are read as one piece. -/
lemma read_pieces (pieces : List (List UInt8)) :
    read (pieces.map .ok) = read [.ok pieces.flatten] := by
  have hone := readFrom_pieces [pieces.flatten] [] [] rfl
  have hmany := readFrom_pieces pieces [] [] rfl
  simp only [List.append_nil, List.flatten_singleton] at hone hmany
  exact hmany.trans hone.symm

/-- Where a stream breaks off, the blocks of its pieces are what was read. -/
lemma read_broken {pieces : List (List UInt8)} {blocks : List (List UInt8)} {rest : List UInt8}
    (h : Blocks (withoutReturns pieces.flatten) blocks rest) (reason : String)
    (behind : List Piece) :
    read (pieces.map .ok ++ .error reason :: behind) =
      (blocks.filterMap ServerEvent.ofBlock?, some (.llmStream reason)) := by
  have hread := readFrom_pieces pieces (.error reason :: behind) [] rfl
  rw [List.nil_append, events_of_blocks h] at hread
  rw [read]
  simpa [readFrom] using hread

end EventStream

/-! ## Answers -/

/-- **What an answer says does not depend on how its bytes are cut into pieces.**  If the stream
ends, its turn is that of the bytes in one piece.  If it breaks off, it says what the events say
that its bytes complete, and the turn fails. -/
theorem Stream.ofPieces_of_cut {body : List UInt8} {pieces : List (List UInt8)}
    (hcut : pieces.flatten = body) :
    (Stream.ofPieces (pieces.map .ok) = Stream.ofPieces [.ok body] ∧
      ∃ turn, Turn.collect (Stream.ofPieces [.ok body]) = .ok turn ∧
        Turn.collect (Stream.ofPieces (pieces.map .ok)) = .ok turn) ∧
    ∃ blocks rest, Blocks (withoutReturns body) blocks rest ∧
      ∀ reason behind,
        Stream.ofPieces (pieces.map .ok ++ .error reason :: behind) =
          { deltas := (blocks.filterMap ServerEvent.ofBlock?).flatMap Chunk.ofEvent
            failure := some (.llmStream reason) } ∧
        Turn.collect (Stream.ofPieces (pieces.map .ok ++ .error reason :: behind)) =
          .error (.llmStream reason) := by
  subst hcut
  have hwhole : Stream.ofPieces (pieces.map .ok) = Stream.ofPieces [.ok pieces.flatten] := by
    unfold Stream.ofPieces
    rw [EventStream.read_pieces]
  obtain ⟨blocks, rest, hblocks⟩ :=
    EventParser.exists_blocks (withoutReturns pieces.flatten)
  have hbroken : ∀ reason behind,
      Stream.ofPieces (pieces.map .ok ++ .error reason :: behind) =
        { deltas := (blocks.filterMap ServerEvent.ofBlock?).flatMap Chunk.ofEvent
          failure := some (.llmStream reason) } := by
    intro reason behind
    unfold Stream.ofPieces
    rw [EventStream.read_broken hblocks]
  refine ⟨⟨hwhole, _, rfl, ?_⟩, blocks, rest, hblocks, fun reason behind =>
    ⟨hbroken reason behind, ?_⟩⟩
  · rw [hwhole]
    rfl
  · rw [hbroken]
    rfl

/-- The answer of one character, in two bytes, with a carriage return in front of each line end. -/
def Stream.accented : List UInt8 :=
  Utf8.encode "data: \x7b\"choices\": [\x7b\"delta\": \x7b\"content\": \"é\"\x7d\x7d]\x7d\r\n\r\n"

/-- The answer of one character comes byte by byte, and then breaks off. -/
theorem Stream.ofPieces_of_cut_accented :
    let pieces := accented.map fun b => [b]
    pieces.flatten = accented ∧
      (∃ turn, Turn.collect (ofPieces (pieces.map .ok)) = .ok turn ∧ turn.text = "é") ∧
      Turn.collect (ofPieces (pieces.map .ok ++ [.error "reset"])) =
        .error (.llmStream "reset") := by
  intro pieces
  have hcut : pieces.flatten = accented := by simp [pieces, ← List.flatMap_def]
  have htext : (Turn.collect (ofPieces [.ok accented])).toOption.map Turn.text = some "é" := by
    decide +kernel
  obtain ⟨⟨-, turn, hwhole, hpieces⟩, blocks, rest, -, hbroken⟩ := ofPieces_of_cut hcut
  rw [hwhole] at htext
  exact ⟨hcut, ⟨turn, hpieces, Option.some.inj htext⟩, (hbroken "reset" []).2⟩

end Blockflow
