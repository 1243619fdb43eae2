import Blockflow.Json.Codec

/-!
# Token usage

Providers report how many tokens a call read and wrote.  Counters are sixty-four bit words and
are summed turn by turn, block by block and run by run.

* `TokenUsage` — the two counters, with addition.
* `TokenUsage.total` — both together.
-/

namespace Blockflow

/-- Tokens read and written. -/
structure TokenUsage where
  input : UInt64 := 0
  output : UInt64 := 0
  deriving DecidableEq, Repr, Inhabited

namespace TokenUsage

/-- Counters added one by one. -/
def add (a b : TokenUsage) : TokenUsage := ⟨a.input + b.input, a.output + b.output⟩

instance : Add TokenUsage := ⟨add⟩

/-- All tokens. -/
def total (u : TokenUsage) : UInt64 := u.input + u.output

/-- Sixty-four bit counters. -/
def counter : Json.Codec UInt64 where
  read source d := (Json.Codec.u64.read source d).map UInt64.ofNat
  write n := .nat n.toNat

/-- Usage as JSON. -/
def codec : Json.Codec TokenUsage :=
  .record "struct TokenUsage"
    (.required "input_tokens" counter <| .required "output_tokens" counter .done)
    (fun (input, output, ()) => ⟨input, output⟩) (fun u => (u.input, u.output, ()))

end TokenUsage

end Blockflow
