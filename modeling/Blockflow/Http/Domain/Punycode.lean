/-!
# Punycode

A label with characters beyond ASCII is sent as its ASCII characters, a hyphen and a row of
numbers.  The numbers tell, in the order of the codes, where each of the other characters is put
in: one counts the places passed over since the one before, where each code that is skipped counts
for all places of the text so far.  A number is written with its low digits first, and what ends
it adapts to the numbers before.

* `Punycode.number`, `Punycode.Reader.read?` — writing a number, and reading digit by digit.
* **`Punycode.encode`** — what stands for a label.
* **`Punycode.decode?`** — the label it stands for.
-/

namespace Blockflow.Punycode

/-! ## Digits -/

/-- A digit below thirty-six: letters come first. -/
def digitChar (d : Nat) : Char := if d < 26 then Char.ofNat (97 + d) else Char.ofNat (22 + d)

/-- The digit of a character, with letters of either case. -/
def digit? (c : Char) : Option Nat :=
  if 'a' ≤ c && c ≤ 'z' then some (c.toNat - 97)
  else if 'A' ≤ c && c ≤ 'Z' then some (c.toNat - 65)
  else if '0' ≤ c && c ≤ '9' then some (c.toNat - 22)
  else none

theorem digit?_digitChar {d : Nat} (h : d < 36) : digit? (digitChar d) = some d :=
  (by decide : ∀ e ∈ List.range 36, digit? (digitChar e) = some e) d (List.mem_range.2 h)

/-- The least digit that goes on at a place: a smaller one ends its number. -/
def threshold (place bias : Nat) : Nat := max 1 (min 26 (place - bias))

theorem threshold_pos (place bias : Nat) : 0 < threshold place bias := by
  unfold threshold; omega

/-- Counts how often a number is divided by thirty-five until it is small, in places of
thirty-six. -/
def scale (n place : Nat) : Nat :=
  if 455 < n then scale (n / 35) (place + 36) else place + 36 * n / (n + 38)
termination_by n
decreasing_by omega

/-- The bias behind a number: half of it counts, of the first one much less. -/
def adapt (n size : Nat) (first : Bool) : Nat :=
  let part := if first then n / 700 else n / 2
  scale (part + part / size) 0

/-! ## Writing -/

/-- The digits of a number from a place on. -/
def number (bias place n : Nat) : List Char :=
  let t := threshold place bias
  if n < t then [digitChar n]
  else digitChar (t + (n - t) % (36 - t)) :: number bias (place + 36) ((n - t) / (36 - t))
termination_by n
decreasing_by
  have := threshold_pos place bias
  exact Nat.lt_of_le_of_lt (Nat.div_le_self _ _) (by omega)

/-- The characters beyond ASCII with their places, codes ascending. -/
def others (cs : List Char) : List (Nat × Nat) :=
  ((cs.map Char.toNat).zipIdx.filter fun (n, _) => 127 < n).mergeSort
    fun (m, i) (n, j) => m < n || (m = n && i ≤ j)

/-- Writes the numbers that put in further characters: `code` and `place` are where the last one
left off in the text of `size` characters, `first` tells whether there was none. -/
def numbers (cs : List Char) (code place size bias : Nat) (first : Bool) :
    List (Nat × Nat) → List Char
  | [] => []
  | (n, i) :: rest =>
    let before := (cs.take i).countP fun c => c.toNat ≤ n
    let count := (n - code) * (size + 1) + before - place
    number bias 36 count ++
      numbers cs n (before + 1) (size + 1) (adapt count (size + 1) first) false rest

/-- **What stands for a label.** -/
def encode (cs : List Char) : List Char :=
  let plain := cs.filter fun c => c.toNat < 128
  (if plain.isEmpty then [] else plain ++ ['-']) ++
    numbers cs 128 0 plain.length 72 true (others cs)

/-! ## Reading -/

/-- A label being read: the text so far, the code and the place reached, the bias, and the number
being read with the place and the weight of its next digit. -/
structure Reader where
  text : List Char
  code : Nat := 128
  start : Nat := 0
  bias : Nat := 72
  count : Nat := 0
  place : Nat := 36
  weight : Nat := 1
  first : Bool := true
  deriving Repr, Inhabited

/-- Whether a code is that of a character. -/
def isCode (n : Nat) : Bool := n < 0xD800 || (0xDFFF < n && n < 0x110000)

/-- Puts a character in where a number says. -/
def Reader.insert? (r : Reader) (count : Nat) : Option Reader :=
  let size := r.text.length + 1
  let code := r.code + (r.start + count) / size
  let start := (r.start + count) % size
  if isCode code then
    some {
      text := r.text.take start ++ Char.ofNat code :: r.text.drop start
      code, start := start + 1, bias := adapt count size r.first, first := false
    }
  else none

/-- Reads a digit. -/
def Reader.read? (r : Reader) (c : Char) : Option Reader := do
  let d ← digit? c
  let count := r.count + d * r.weight
  let t := threshold r.place r.bias
  if d < t then r.insert? count
  else return { r with count, place := r.place + 36, weight := r.weight * (36 - t) }

/-- The ASCII characters in front of the last hyphen, if there are any, and the digits. -/
def split (cs : List Char) : List Char × List Char :=
  let plain := (cs.reverse.dropWhile (· ≠ '-')).drop 1 |>.reverse
  if plain.isEmpty then ([], cs) else (plain, cs.drop (plain.length + 1))

/-- **The label that ASCII characters and digits stand for.**  The last number has to end. -/
def decode? (cs : List Char) : Option (List Char) := do
  let (plain, digits) := split cs
  guard (plain.all fun c => c.toNat < 128)
  let r ← digits.foldlM Reader.read? { text := plain }
  guard (r.place = 36)
  return r.text

end Blockflow.Punycode
