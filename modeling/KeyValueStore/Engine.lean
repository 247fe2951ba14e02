import KeyValueStore.Service

set_option autoImplicit false

/-!
# The quorum engine

The engine (`internal/engine`, with its voting) is not among the sources; this module models it
from the specification's description of `Read` and `Write`. A read dispatches the operator to
every node, counts the replies in the order they arrive into groups of equivalent outcomes, and
lets the largest candidate group win if it has the votes. A write dispatches to every node, one
after another in sequential mode, and succeeds with enough acknowledgements; a failed write
hands the nodes that did acknowledge to its rollback hook.

What the world decides is a `Dispatch` per engine call: which backends fail, and the order in
which replies arrive. Repair and rollback hooks are fire-and-forget: `Prog.exec` returns them
as tasks, to be run whenever the caller chooses.
-/

namespace KeyValueStore

/-- Modelled from the spec: what the world decides in one engine call, namely which backends
fail with a transport error and when each reply arrives. -/
structure Dispatch where
  faulty : Backend → Bool
  arrival : Backend → Nat

def Dispatch.reliable : Dispatch := ⟨fun _ => false, fun _ => 0⟩

abbrev Reply := Backend × Except Error Value

/-- A group of equivalent replies: the value that formed it (`none` for the `ErrNotFound`
group) and its members in the order they were counted. -/
structure Group where
  value : Option Value
  members : List Backend
  deriving DecidableEq, Repr

def Group.result (g : Group) : Except Error Value :=
  match g.value with
  | some v => .ok v
  | none => .error .notFound

structure ReadOutcome where
  result : Except Error Value
  args : Option RepairArgs
  deriving DecidableEq, Repr

structure WriteOutcome where
  result : Except Error Unit
  rollback : Option (List Backend)
  deriving DecidableEq, Repr

/-- A hook the engine fired and did not wait for. -/
inductive Task where
  | repair (operator : RepairOperator) (args : RepairArgs)
  | rollback (operator : RollbackOperator) (nodes : List Backend)
  deriving DecidableEq, Repr

def Task.prog : Task → Prog Unit
  | .repair operator args => operator.run args
  | .rollback operator nodes => operator.run nodes

namespace QuorumEngine

/-- Modelled from the spec: every node runs the operator on its own store, unless its dispatch
fails. -/
def dispatchRead (operator : ReadOperator) (d : Dispatch) :
    List Backend → Fleet → List Reply × Fleet
  | [], fleet => ([], fleet)
  | b :: bs, fleet =>
    let (reply, store) :=
      if d.faulty b then (.error .internal, fleet b) else operator.run (fleet b)
    let (replies, fleet') := dispatchRead operator d bs (Function.update fleet b store)
    ((b, reply) :: replies, fleet')

/-- Modelled from the spec: the replies in the order they arrive. -/
def arrive (d : Dispatch) (replies : List Reply) : List Reply :=
  replies.insertionSort (fun r r' => d.arrival r.1 ≤ d.arrival r'.1)

/-- Modelled from the spec: a value joins the first group whose value `cmp` accepts it,
else it forms a new group. -/
def countValue (cmp : ValueComparer) (b : Backend) (v : Value) :
    List Group → Except Panic (List Group)
  | [] => .ok [⟨some v, [b]⟩]
  | g :: gs =>
    match g.value with
    | none => (g :: ·) <$> countValue cmp b v gs
    | some rep => do
      if ← cmp rep v then pure ({ g with members := g.members ++ [b] } :: gs)
      else (g :: ·) <$> countValue cmp b v gs

/-- Modelled from the spec: every `ErrNotFound` joins the one `ErrNotFound` group. -/
def countNotFound (b : Backend) : List Group → List Group
  | [] => [⟨none, [b]⟩]
  | g :: gs =>
    if g.value = none then { g with members := g.members ++ [b] } :: gs
    else g :: countNotFound b gs

/-- Modelled from the spec: the replies counted in order; other errors join no group. -/
def count (cmp : ValueComparer) : List Group → List Reply → Except Panic (List Group)
  | groups, [] => .ok groups
  | groups, (b, .ok v) :: rs => do count cmp (← countValue cmp b v groups) rs
  | groups, (b, .error .notFound) :: rs => count cmp (countNotFound b groups) rs
  | groups, (_, .error _) :: rs => count cmp groups rs

/-- Modelled from the spec: whether a group may win. -/
def candidate (mode : VotingMode) (g : Group) : Bool :=
  mode = .voteOnNotFound || g.value.isSome

/-- Modelled from the spec: the first of the largest candidate groups, with its position. -/
def leader (mode : VotingMode) : List Group → Option (Nat × Group)
  | [] => none
  | g :: gs =>
    let rest := (leader mode gs).map (fun w => (w.1 + 1, w.2))
    if candidate mode g then
      match rest with
      | some w => if g.members.length < w.2.members.length then some w else some (0, g)
      | none => some (0, g)
    else rest

/-- Modelled from the spec: the read's result, and the repair's arguments when a group won:
its members are the winners, the members of every other group the losers. -/
def verdict (votesRequired : Nat) (mode : VotingMode) (groups : List Group) : ReadOutcome :=
  match leader mode groups with
  | some (i, w) =>
    if votesRequired ≤ w.members.length then
      { result := w.result
        args := some
          { value := w.value.getD .nil
            err := if w.value = none then some .notFound else none
            winners := w.members
            losers := (groups.eraseIdx i).flatMap Group.members } }
    else ⟨.error .consistency, none⟩
  | none => ⟨.error .consistency, none⟩

/-- Modelled from the spec: `Engine.Read`. -/
def read (fleet : Fleet) (d : Dispatch) (nodes : List Backend) (votesRequired : Nat)
    (operator : ReadOperator) (cmp : ValueComparer) (mode : VotingMode) :
    Except Panic (ReadOutcome × Fleet) := do
  let (replies, fleet') := dispatchRead operator d nodes fleet
  let groups ← count cmp [] (arrive d replies)
  return (verdict votesRequired mode groups, fleet')

/-- Modelled from the spec: one write dispatch, whether it was acknowledged, and the fleet
after it. -/
def callWrite (operator : WriteOperator) (d : Dispatch) (b : Backend) (fleet : Fleet) :
    Except Panic (Bool × Fleet) :=
  if d.faulty b then .ok (false, fleet)
  else do
    match ← operator.run (fleet b) with
    | .ok s => pure (true, Function.update fleet b s)
    | .error _ => pure (false, fleet)

/-- Modelled from the spec: every node is dispatched; the acknowledged ones are returned. -/
def writeConcurrent (operator : WriteOperator) (d : Dispatch) :
    List Backend → Fleet → Except Panic (List Backend × Fleet)
  | [], fleet => .ok ([], fleet)
  | b :: bs, fleet => do
    let (ok, fleet) ← callWrite operator d b fleet
    let (acked, fleet) ← writeConcurrent operator d bs fleet
    return (if ok then b :: acked else acked, fleet)

/-- Modelled from the spec: the nodes in order, each dispatch after the previous returned;
the first failure ends the write, so the acknowledged nodes are a prefix. -/
def writeSequential (operator : WriteOperator) (d : Dispatch) :
    List Backend → Fleet → Except Panic (List Backend × Fleet)
  | [], fleet => .ok ([], fleet)
  | b :: bs, fleet => do
    let (ok, fleet) ← callWrite operator d b fleet
    if ok then
      let (acked, fleet) ← writeSequential operator d bs fleet
      return (b :: acked, fleet)
    else return ([], fleet)

/-- Modelled from the spec: `Engine.Write`. A write short of its acknowledgements fails with
`ErrConsistency` and hands the acknowledged nodes, if any, to the rollback hook. -/
def write (fleet : Fleet) (d : Dispatch) (nodes : List Backend) (acknowledgeRequired : Nat)
    (operator : WriteOperator) (mode : OperationMode) : Except Panic (WriteOutcome × Fleet) := do
  let (acked, fleet') ← match mode with
    | .concurrent => writeConcurrent operator d nodes fleet
    | .sequential => writeSequential operator d nodes fleet
  if acknowledgeRequired ≤ acked.length then return (⟨.ok (), none⟩, fleet')
  else return (⟨.error .consistency, if acked = [] then none else some acked⟩, fleet')

end QuorumEngine

/-- Modelled from the spec: a program run against the engine. Its engine calls take their
dispatches from `ds` in order, the reliable one once `ds` is used up. The hooks the calls fire
are returned as tasks, not run. -/
def Prog.exec {α : Type} : Prog α → List Dispatch → Fleet → Except Panic (α × Fleet × List Task)
  | .ret a, _, fleet => .ok (a, fleet, [])
  | .panic p, _, _ => .error p
  | .read nodes votes operator repair cmp mode next, ds, fleet => do
    let (o, fleet) ← QuorumEngine.read fleet (ds.headD .reliable) nodes votes operator cmp mode
    let (a, fleet, tasks) ← (next o.result).exec ds.tail fleet
    let fired := match repair, o.args with
      | some r, some args => [Task.repair r args]
      | _, _ => []
    return (a, fleet, fired ++ tasks)
  | .write nodes acks operator rollback mode next, ds, fleet => do
    let (o, fleet) ← QuorumEngine.write fleet (ds.headD .reliable) nodes acks operator mode
    let (a, fleet, tasks) ← (next o.result).exec ds.tail fleet
    let fired := match o.rollback with
      | some acked => [Task.rollback rollback acked]
      | none => []
    return (a, fleet, fired ++ tasks)

/-- Modelled from the spec: the fired hooks run to completion, in order, each backend
answering. What they fire in turn is dropped: their writes need no acknowledgement, so they
never roll back. -/
def settle (tasks : List Task) (fleet : Fleet) : Except Panic Fleet :=
  tasks.foldlM (fun fleet t => (t.prog.exec [] fleet).map (·.2.1)) fleet

namespace Prog

variable {α : Type} (ds : List Dispatch) (fleet : Fleet)

@[simp] theorem exec_ret (a : α) : (ret a).exec ds fleet = .ok (a, fleet, []) := rfl

@[simp] theorem exec_panic (p : Panic) : (panic p : Prog α).exec ds fleet = .error p := rfl

theorem exec_read (nodes : List Backend) (votes : Nat) (operator : ReadOperator)
    (repair : Option RepairOperator) (cmp : ValueComparer) (mode : VotingMode)
    (next : Except Error Value → Prog α) :
    (read nodes votes operator repair cmp mode next).exec ds fleet = do
      let (o, fleet) ← QuorumEngine.read fleet (ds.headD .reliable) nodes votes operator cmp mode
      let (a, fleet, tasks) ← (next o.result).exec ds.tail fleet
      let fired := match repair, o.args with
        | some r, some args => [Task.repair r args]
        | _, _ => []
      return (a, fleet, fired ++ tasks) := rfl

theorem exec_write (nodes : List Backend) (acks : Nat) (operator : WriteOperator)
    (rollback : RollbackOperator) (mode : OperationMode) (next : Except Error Unit → Prog α) :
    (write nodes acks operator rollback mode next).exec ds fleet = do
      let (o, fleet) ← QuorumEngine.write fleet (ds.headD .reliable) nodes acks operator mode
      let (a, fleet, tasks) ← (next o.result).exec ds.tail fleet
      let fired := match o.rollback with
        | some acked => [Task.rollback rollback acked]
        | none => []
      return (a, fleet, fired ++ tasks) := rfl

end Prog

end KeyValueStore
