/-!
# Tables of ranges

A property of characters is told by the ranges of codes that have it.

* **`Text.liesIn`** — whether a character lies in one of the ranges of a table.
-/

namespace Blockflow.Text

/-- **Whether a character lies in one of ascending ranges.**  A code point lies in the first range
that does not end before it, or in none. -/
def liesIn (ranges : List (Nat × Nat)) (c : Char) : Bool :=
  match ranges.find? fun r => c.toNat ≤ r.2 with
  | some r => r.1 ≤ c.toNat
  | none => false

/-- A character that lies in a table lies in one of its ranges. -/
theorem exists_mem_of_liesIn {ranges : List (Nat × Nat)} {c : Char}
    (h : liesIn ranges c = true) : ∃ r ∈ ranges, r.1 ≤ c.toNat ∧ c.toNat ≤ r.2 := by
  unfold liesIn at h
  split at h
  · next r hr =>
    exact ⟨r, List.mem_of_find?_eq_some hr, by simpa using h, by simpa using List.find?_some hr⟩
  · contradiction

end Blockflow.Text
