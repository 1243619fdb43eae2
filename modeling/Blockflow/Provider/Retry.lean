import Blockflow.Block.Basic

/-!
# Repeating failed calls

A call of a model that failed in a way that may pass is made again, after a wait that doubles
from attempt to attempt up to a limit and is varied a little, so that many clients do not come
back at once.

* `Retry.isRetryable` — which failures may pass.
* `Retry.backoff` — the nominal wait before a repetition.
* **`Retry.client`** — a client that repeats the calls of another.
-/

namespace Blockflow.Retry

/-- Whether a text contains another. -/
def mentions (part whole : List Char) : Bool :=
  part.isPrefixOf whole ||
    match whole with
    | [] => false
    | _ :: rest => mentions part rest

/-- What the wording of a passing failure mentions. -/
def passingSigns : List String := ["429", "500", "502", "503", "timeout", "connection"]

/-- Whether a failure may pass: every broken stream, and a failed request whose wording says
so. -/
def isRetryable : Error → Bool
  | .llmRequest reason => passingSigns.any fun sign => mentions sign.toList reason.toList
  | .llmStream _ => true
  | _ => false

/-! ## Waits -/

/-- The product of two words, or the largest word where the product is none. -/
def saturatingMul (a b : UInt64) : UInt64 :=
  if a.toNat * b.toNat < UInt64.size then a * b else .ofNat (UInt64.size - 1)

/-- The power of a word, or the largest word where the power is none. -/
def saturatingPow (a : UInt64) : Nat → UInt64
  | 0 => 1
  | n + 1 => saturatingMul (saturatingPow a n) a

/-- The nominal wait before a repetition, in milliseconds: the initial one, doubled for each
repetition before, and never above the limit.  All of these are words. -/
def backoff (c : RetryConfig) (attempt : Nat) : Nat :=
  let wait := saturatingMul (.ofNat c.initialBackoffMs) (saturatingPow 2 attempt)
  (min wait (.ofNat c.maxBackoffMs)).toNat

/-- How waits vary: the thousandths of the nominal wait that an attempt takes. -/
abbrev Jitter := Nat → Nat

/-- Waits that do not vary. -/
def steady : Jitter := fun _ => 1000

/-- The wait before a repetition. -/
def pause (c : RetryConfig) (jitter : Jitter) (attempt : Nat) : Nat :=
  backoff c attempt * jitter attempt / 1000

/-! ## Calls -/

/-- A call with some repetitions left. -/
def callFrom (c : RetryConfig) (jitter : Jitter) (inner : ModelClient) (request : ModelRequest) :
    (left attempt : Nat) → Activity (Except Error Stream)
  | 0, _ => inner request
  | left + 1, attempt => do
    match ← inner request with
    | .ok s => return .ok s
    | .error e =>
      if isRetryable e then do
        Activity.wait (pause c jitter attempt)
        callFrom c jitter inner request left (attempt + 1)
      else return .error e

/-- **A client that repeats failed calls of another.** -/
def client (c : RetryConfig) (jitter : Jitter) (inner : ModelClient) : ModelClient :=
  fun request => callFrom c jitter inner request c.maxRetries 0

end Blockflow.Retry
