import Blockflow.Usage
import Mathlib.Algebra.BigOperators.Group.Finset.Basic

/-!
# Adding up token usage

Usage is summed over turns, blocks and runs, in whatever order they end.  Both counters are words
of sixty-four bits, so sums do not depend on the order, and they may be taken over finite sets.
-/

namespace Blockflow

namespace TokenUsage

@[ext] lemma ext {a b : TokenUsage} (hi : a.input = b.input) (ho : a.output = b.output) :
    a = b := by
  cases a
  cases b
  simp_all

@[simp] lemma input_add (a b : TokenUsage) : (a + b).input = a.input + b.input := rfl

@[simp] lemma output_add (a b : TokenUsage) : (a + b).output = a.output + b.output := rfl

instance : Zero TokenUsage := ⟨{}⟩

@[simp] lemma input_zero : (0 : TokenUsage).input = 0 := rfl

@[simp] lemma output_zero : (0 : TokenUsage).output = 0 := rfl

instance : AddCommMonoid TokenUsage where
  add_assoc a b c := by ext <;> simp [UInt64.add_assoc]
  zero_add a := by ext <;> simp
  add_zero a := by ext <;> simp
  add_comm a b := by ext <;> simp [UInt64.add_comm]
  nsmul := nsmulRec

end TokenUsage

end Blockflow
