import Blockflow.Table

/-!
# Daily limits

A user may start so many runs a day.  Counts are kept per user for one day at a time; the first
run of another day starts a new count.

* `Limiter` — the limit and the counts.
* **`Limiter.remaining`**, `Limiter.increment` — how many runs are left, and one more.
-/

namespace Blockflow

/-- The runs allowed a day, any number if the limit is negative, and each user's last day with
the runs on it. -/
structure Limiter where
  limit : Int := -1
  counts : Table (Int × Nat) := []
  deriving DecidableEq, Repr, Inhabited

namespace Limiter

/-- The runs of a user on a day. -/
def used (l : Limiter) (userId : String) (day : Int) : Nat :=
  match Table.get? l.counts userId with
  | some (d, n) => if d = day then n else 0
  | none => 0

/-- **The runs left to a user on a day**; minus one if there is no limit. -/
def remaining (l : Limiter) (userId : String) (day : Int) : Int :=
  if l.limit < 0 then -1 else max 0 (l.limit - l.used userId day)

/-- One more run of a user on a day. -/
def increment (l : Limiter) (userId : String) (day : Int) : Limiter :=
  if l.limit < 0 then l
  else { l with counts := Table.insert l.counts userId (day, l.used userId day + 1) }

end Limiter

end Blockflow
