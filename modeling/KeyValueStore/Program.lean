import KeyValueStore.Backend

set_option autoImplicit false

/-!
# The engine interface, and service code as programs against it

`keyvaluestore.Engine` has two calls, `Read` and `Write`, which take the service's operators,
comparers and hooks as closures. Here each closure is data: one constructor per closure of the
service, holding what the closure captures. Their bodies are the service's code, in
`KeyValueStore.Service`.

A `Prog` is service code that calls the engine: a tree whose inner nodes are engine calls, each
with the continuation that receives the call's result. An engine gives the tree its meaning by
answering the calls; `KeyValueStore.Engine` is the one the specification describes.
-/

namespace KeyValueStore

inductive OperationMode where
  | concurrent
  | sequential
  deriving DecidableEq, Repr

inductive VotingMode where
  | voteOnNotFound
  | skipVoteOnNotFound
  deriving DecidableEq, Repr

/-- The service's read closures, by the backend call they make. -/
inductive ReadOperator where
  | get (key : Key)
  | ttl (key : Key)
  | exists (key : Key)
  | expire (key : Key) (expiration : Duration)
  deriving DecidableEq, Repr

/-- The service's write closures. `setValue` is the repairs' `setOperator`, which asserts its
captured value to `[]byte` each time the engine calls it. -/
inductive WriteOperator where
  | set (key : Key) (data : Bytes) (expiration : Duration)
  | setValue (key : Key) (value : Value) (ttl : Duration)
  | delete (key : Key)
  | lock (key : Key) (data : Bytes) (expiration : Duration)
  | unlock (key : Key)
  | flushDB
  deriving DecidableEq, Repr

/-- A rollback hook: the empty closure, or a zero-acknowledgement concurrent write of `undo` to
the nodes it is given. -/
inductive RollbackOperator where
  | none
  | write (undo : WriteOperator)
  deriving DecidableEq, Repr

/-- The repair hooks of the four reads. -/
inductive RepairOperator where
  | get (key : Key)
  | expire (key : Key)
  | exists (key : Key)
  | getTTL (key : Key)
  deriving DecidableEq, Repr

structure RepairArgs where
  value : Value
  err : Option Error
  winners : List Backend
  losers : List Backend
  deriving DecidableEq, Repr

abbrev ValueComparer := Value → Value → Except Panic Bool

inductive Prog (α : Type) where
  | ret (a : α)
  | panic (p : Panic)
  | read (nodes : List Backend) (votesRequired : Nat) (operator : ReadOperator)
      (repair : Option RepairOperator) (cmp : ValueComparer) (mode : VotingMode)
      (next : Except Error Value → Prog α)
  | write (nodes : List Backend) (acknowledgeRequired : Nat) (operator : WriteOperator)
      (rollback : RollbackOperator) (mode : OperationMode) (next : Except Error Unit → Prog α)

namespace Prog

def bind {α β : Type} : Prog α → (α → Prog β) → Prog β
  | ret a, f => f a
  | panic p, _ => panic p
  | read nodes votes operator repair cmp mode next, f =>
    read nodes votes operator repair cmp mode (fun r => (next r).bind f)
  | write nodes acks operator rollback mode next, f =>
    write nodes acks operator rollback mode (fun r => (next r).bind f)

instance : Monad Prog where
  pure := ret
  bind := bind

/-- A Go expression that may panic. -/
def lift {α : Type} : Except Panic α → Prog α
  | .ok a => ret a
  | .error p => panic p

@[simp] theorem pure_eq {α : Type} (a : α) : (pure a : Prog α) = ret a := rfl

@[simp] theorem bind_eq {α β : Type} (x : Prog α) (f : α → Prog β) : x >>= f = x.bind f := rfl

@[simp] theorem ret_bind {α β : Type} (a : α) (f : α → Prog β) : (ret a).bind f = f a := rfl

@[simp] theorem panic_bind {α β : Type} (p : Panic) (f : α → Prog β) :
    (panic p).bind f = panic p := rfl

@[simp] theorem read_bind {α β : Type} (nodes : List Backend) (votes : Nat)
    (operator : ReadOperator) (repair : Option RepairOperator) (cmp : ValueComparer)
    (mode : VotingMode) (next : Except Error Value → Prog α) (f : α → Prog β) :
    (read nodes votes operator repair cmp mode next).bind f =
      read nodes votes operator repair cmp mode (fun r => (next r).bind f) := rfl

@[simp] theorem write_bind {α β : Type} (nodes : List Backend) (acks : Nat)
    (operator : WriteOperator) (rollback : RollbackOperator) (mode : OperationMode)
    (next : Except Error Unit → Prog α) (f : α → Prog β) :
    (write nodes acks operator rollback mode next).bind f =
      write nodes acks operator rollback mode (fun r => (next r).bind f) := rfl

@[simp] theorem lift_ok {α : Type} (a : α) : lift (.ok a) = ret a := rfl

@[simp] theorem lift_error {α : Type} (p : Panic) : lift (.error p : Except Panic α) = panic p := rfl

@[simp] theorem bind_ret {α : Type} (x : Prog α) : x.bind ret = x := by
  induction x with
  | ret a => rfl
  | panic p => rfl
  | read nodes votes operator repair cmp mode next ih => simp only [read_bind, ih]
  | write nodes acks operator rollback mode next ih => simp only [write_bind, ih]

end Prog

namespace Engine

/-- `engine.Read(nodes, votesRequired, operator, repair, cmp, mode)` -/
def read (nodes : List Backend) (votesRequired : Nat) (operator : ReadOperator)
    (repair : Option RepairOperator) (cmp : ValueComparer) (mode : VotingMode) :
    Prog (Except Error Value) :=
  .read nodes votesRequired operator repair cmp mode .ret

/-- `engine.Write(nodes, acknowledgeRequired, operator, rollback, mode)` -/
def write (nodes : List Backend) (acknowledgeRequired : Nat) (operator : WriteOperator)
    (rollback : RollbackOperator) (mode : OperationMode) : Prog (Except Error Unit) :=
  .write nodes acknowledgeRequired operator rollback mode .ret

end Engine

structure ReadView where
  backends : List Backend
  voteRequired : Nat
  votingMode : VotingMode
  deriving DecidableEq, Repr

structure WriteView where
  backends : List Backend
  acknowledgeRequired : Nat
  deriving DecidableEq, Repr

/-- The cluster, outside the service: it resolves a key and a consistency level to the view a
request is run on, or fails with `ErrConsistency`. -/
structure Cluster where
  read : Key → ConsistencyLevel → Except Error ReadView
  write : Key → ConsistencyLevel → Except Error WriteView
  flushDB : Except Error WriteView

end KeyValueStore
