import Blockflow.Workflow.Basic

/-!
# Execution plans

Before a workflow runs, its graph is checked and put into an order in which every block follows
the blocks it depends on.  The order comes from a depth-first search: blocks in reverse order of
their finishing, earlier blocks and earlier connections being explored first.  A graph with a
cycle has no such order, and the search's own order then shows a connection that points
backwards.

* `Traversal`, **`Traversal.visit`** — depth-first search.
* `Plan` — the distinct edges and the order; `Plan.rank`, `Plan.sources`, `Plan.targets`,
  `Plan.descendants`, `Plan.entries` and `Plan.sinks` are read off them, always sorted by rank.
* `Plan.misplaced?` — a block that should have come earlier, where the order is not one.
* **`Plan.build`** — the checks and the plan.
-/

namespace Blockflow

/-! ## Depth-first search -/

/-- What a search has seen and finished so far, the latest first. -/
structure Traversal where
  seen : List Nat := []
  finished : List Nat := []
  deriving DecidableEq, Repr

namespace Traversal

/-- **Explores what is reachable from a node**, its successors from the first to the last, and
finishes the node after them.  A path without repetition has at most as many nodes as there are,
so `fuel` beyond their number is never used up. -/
def visit (next : Nat → List Nat) : (fuel : Nat) → Traversal → Nat → Traversal
  | 0, t, _ => t
  | fuel + 1, t, v =>
    if t.seen.contains v then t
    else
      let t := (next v).foldl (visit next fuel) { t with seen := v :: t.seen }
      { t with finished := v :: t.finished }

/-- Explores from every node of a list in turn. -/
def visitAll (next : Nat → List Nat) (fuel : Nat) (nodes : List Nat) : Traversal :=
  nodes.foldl (visit next fuel) {}

end Traversal

/-! ## Plans -/

/-- The dependencies of a workflow's blocks, each named by its position in the workflow.  Several
connections between two blocks are one edge. -/
structure Plan where
  size : Nat
  edges : List (Nat × Nat)
  order : List Nat
  deriving DecidableEq, Repr, Inhabited

namespace Plan

/-- The targets of a node's edges, in the order of the edges. -/
def successors (edges : List (Nat × Nat)) (v : Nat) : List Nat :=
  (edges.filter fun e => e.1 = v).map Prod.snd

/-- The sources of the edges into a node, in the order of the edges. -/
def predecessors (edges : List (Nat × Nat)) (v : Nat) : List Nat :=
  (edges.filter fun e => e.2 = v).map Prod.fst

/-- The nodes in reverse order of their finishing. -/
def searchOrder (size : Nat) (edges : List (Nat × Nat)) : List Nat :=
  (Traversal.visitAll (successors edges) (size + 1) (List.range size)).finished

/-- The first node in the order with a predecessor that does not stand before it, and that
predecessor. -/
def misplaced? (edges : List (Nat × Nat)) (before : List Nat) : List Nat → Option Nat
  | [] => none
  | v :: rest =>
    match (predecessors edges v).find? fun u => !(v :: before).contains u with
    | some u => some u
    | none => misplaced? edges (v :: before) rest

variable (p : Plan)

/-- The position of a block in the order. -/
def rank (b : Nat) : Nat := p.order.idxOf b

/-- The blocks with a connection into a block. -/
def sources (b : Nat) : List Nat := p.order.filter fun u => p.edges.contains (u, b)

/-- The blocks with a connection from a block. -/
def targets (b : Nat) : List Nat := p.order.filter fun d => p.edges.contains (b, d)

/-- The blocks without incoming connections. -/
def entries : List Nat := p.order.filter fun b => (p.sources b).isEmpty

/-- The blocks without outgoing connections. -/
def sinks : List Nat := p.order.filter fun b => (p.targets b).isEmpty

/-- The blocks reachable from a block by one connection or more. -/
def descendants (b : Nat) : List Nat :=
  let reached := (Traversal.visitAll p.targets (p.size + 1) (p.targets b)).seen
  p.order.filter fun d => reached.contains d

/-! ## Building -/

/-- The checks on blocks, in their order: an id, one that no earlier block has, and a normalized
id that no earlier block has. -/
def checkBlocks (ids normalized : List String) (position : Nat) :
    List Block → Except Error Unit
  | [] => .ok ()
  | b :: rest =>
    if b.id.isEmpty then
      .error (.validation ("block at position " ++ Json.intNumeral position ++ " has no id"))
    else if ids.contains b.id then
      .error (.validation ("duplicate block id '" ++ b.id ++ "'"))
    else if normalized.contains b.normalizedId then
      .error (.validation ("duplicate normalized id '" ++ b.normalizedId ++ "'"))
    else checkBlocks (b.id :: ids) (b.normalizedId :: normalized) (position + 1) rest

/-- The position of the block a connection names. -/
def endpoint (w : Workflow) (c : Connection) (id : String) : Except Error Nat :=
  match w.blocks.findIdx? fun b => b.id = id with
  | some i => .ok i
  | none => .error (.validation
      ("connection '" ++ c.id ++ "' references unknown block '" ++ id ++ "'"))

/-- The distinct edges of the connections, in the order in which they first appear. -/
def collectEdges (w : Workflow) (edges : List (Nat × Nat)) :
    List Connection → Except Error (List (Nat × Nat))
  | [] => .ok edges
  | c :: rest => do
    let source ← endpoint w c c.source
    let target ← endpoint w c c.target
    if source = target then
      .error (.validation
        ("connection '" ++ c.id ++ "' loops block '" ++ c.source ++ "' onto itself"))
    else if edges.contains (source, target) then collectEdges w edges rest
    else collectEdges w (edges ++ [(source, target)]) rest

/-- **The plan of a workflow**, or what is wrong with its graph. -/
def build (w : Workflow) : Except Error Plan := do
  if w.blocks.isEmpty then throw (.validation "workflow has no blocks")
  checkBlocks [] [] 0 w.blocks
  let edges ← collectEdges w [] w.connections
  let order := searchOrder w.blocks.length edges
  match misplaced? edges [] order with
  | some u => throw (.cycle ((w.blocks[u]?.map (·.id)).getD ""))
  | none => return ⟨w.blocks.length, edges, order⟩

end Plan

end Blockflow
