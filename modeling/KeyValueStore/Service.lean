import KeyValueStore.Program
import Mathlib.Data.List.Sort

set_option autoImplicit false

/-!
# The core service

`coreService` of `internal/core/service.go`: the bodies of the operators and hooks each
operation hands to the engine, the three comparers, and the operations as programs against the
engine. The cluster is a parameter. Logging is left out: no logged error reaches a result.
-/

namespace KeyValueStore

/-- `acceptableDurationDiff = 2 * time.Second` -/
def acceptableDurationDiff : Duration := 2000000000

structure CoreService where
  defaultWriteConsistency : ConsistencyLevel
  defaultReadConsistency : ConsistencyLevel
  deriving DecidableEq, Repr

namespace CoreService

def new (options : List (CoreService → CoreService)) : CoreService :=
  options.foldl (fun s option => option s) ⟨.all, .majority⟩

def withDefaultReadConsistency (defaultReadConsistency : ConsistencyLevel) (s : CoreService) :
    CoreService :=
  { s with defaultReadConsistency }

def withDefaultWriteConsistency (defaultWriteConsistency : ConsistencyLevel) (s : CoreService) :
    CoreService :=
  { s with defaultWriteConsistency }

def writeConsistency (s : CoreService) (writeOptions : WriteOptions) : ConsistencyLevel :=
  if writeOptions.consistency = .default then s.defaultWriteConsistency
  else writeOptions.consistency

def readConsistency (s : CoreService) (readOptions : ReadOptions) : ConsistencyLevel :=
  if readOptions.consistency = .default then s.defaultReadConsistency
  else readOptions.consistency

end CoreService

def byteComparer (x y : Value) : Except Panic Bool := do
  return (← x.asBytes) == (← y.asBytes)

def durationComparer (x y : Value) : Except Panic Bool :=
  if x = .nil then return y = .nil
  else if y = .nil then return false
  else do
    let diff := (← deref (← x.asDuration)) - (← deref (← y.asDuration))
    let diff := if diff.slt 0 then -diff else diff
    return diff.slt acceptableDurationDiff

def booleanComparer (x y : Value) : Except Panic Bool := do
  return (← x.asBool) == (← y.asBool)

def majority (n : Nat) : Nat :=
  n / 2 + 1

def sortNodes (nodes : List Backend) : List Backend :=
  nodes.insertionSort (· ≤ ·)

theorem sortNodes_perm (nodes : List Backend) : (sortNodes nodes).Perm nodes :=
  List.perm_insertionSort _ _

theorem sortNodes_eq_of_perm {nodes nodes' : List Backend} (h : nodes.Perm nodes') :
    sortNodes nodes = sortNodes nodes' :=
  List.eq_of_perm_of_sorted (((sortNodes_perm nodes).trans h).trans (sortNodes_perm nodes').symm)
    (List.sorted_insertionSort _ _) (List.sorted_insertionSort _ _)

/-- Note the `DeadlineExceeded` case: its status carries the text of `context.Canceled`. -/
def convertErrorToGRPC : Error → Status
  | .notFound => ⟨.notFound, .notFound⟩
  | .consistency => ⟨.unavailable, .consistency⟩
  | .canceled => ⟨.canceled, .canceled⟩
  | .deadlineExceeded => ⟨.deadlineExceeded, .canceled⟩
  | err => ⟨.internal, err⟩

/-- The read closures' bodies: the backend call each makes, and what it boxes. -/
def ReadOperator.run : ReadOperator → Store → Except Error Value × Store
  | .get key, s => ((s.get key).map .bytes, s)
  | .ttl key, s => ((s.ttl key).map .duration, s)
  | .exists key, s => (if s.exists key then .ok (.bool true) else .error .notFound, s)
  | .expire key expiration, s =>
    match s.expire key expiration with
    | .ok t => (.ok (.bool true), t)
    | .error err => (.error err, s)

/-- The write closures' bodies. -/
def WriteOperator.run : WriteOperator → Store → Except Panic (Except Error Store)
  | .set key data expiration, s => .ok (.ok (s.set key data expiration))
  | .setValue key value ttl, s => do
    let data ← value.asBytes
    return .ok (s.set key data ttl)
  | .delete key, s => .ok (.ok (s.delete key))
  | .lock key data expiration, s => .ok (s.lock key data expiration)
  | .unlock key, s => .ok (.ok (s.unlock key))
  | .flushDB, _ => .ok (.ok Store.flushDB)

/-- `deleteOperator` on the losers, with the empty `deleteRollbackOperator`. -/
def deleteLosers (key : Key) (losers : List Backend) : Prog Unit := do
  let _ ← Engine.write losers 0 (.delete key) .none .concurrent

/-- `setOperator` on the losers, with `setRollbackOperator`. -/
def setLosers (key : Key) (losers : List Backend) (value : Value) (ttl : Duration) : Prog Unit := do
  let _ ← Engine.write losers 0 (.setValue key value ttl) (.write (.delete key)) .concurrent

/-- The end of the Expire, Exists and GetTTL repairs: read the value from the winners and
write it, with `ttl`, to the losers. -/
def setLosersFromWinners (key : Key) (args : RepairArgs) (ttl : Duration) : Prog Unit := do
  match ← Engine.read args.winners (majority args.winners.length) (.get key) none byteComparer
      .skipVoteOnNotFound with
  | .error _ => pure ()
  | .ok rawValue => setLosers key args.losers rawValue ttl

/-- Get's `repairOperator`. The branch on `ttlValue = nil` is the source's `shouldRepair`. -/
def getRepair (key : Key) (args : RepairArgs) : Prog Unit := do
  if args.err = some .notFound then
    deleteLosers key args.losers
  else
    match ← Engine.read args.winners (majority args.winners.length) (.ttl key) none
        durationComparer .skipVoteOnNotFound with
    | .error _ => pure ()
    | .ok ttlValue =>
      if ttlValue = .nil then
        setLosers key args.losers args.value 0
      else do
        let ttl ← Prog.lift (ttlValue.asDuration >>= deref)
        if ttl ≠ 0 then setLosers key args.losers args.value ttl

/-- The `repairOperator` of Expire and of Exists: the two closures are the same code. -/
def existenceRepair (key : Key) (args : RepairArgs) : Prog Unit := do
  if args.err = some .notFound then
    deleteLosers key args.losers
  else
    match ← Engine.read args.winners (majority args.winners.length) (.ttl key) none
        durationComparer .skipVoteOnNotFound with
    | .error _ => pure ()
    | .ok ttlValue =>
      if args.value = .nil then
        setLosersFromWinners key args 0
      else do
        let ttl ← Prog.lift (ttlValue.asDuration >>= deref)
        if ttl = 0 then deleteLosers key args.losers
        else setLosersFromWinners key args ttl

/-- GetTTL's `repairOperator`: the winning value is itself the time to live. -/
def getTTLRepair (key : Key) (args : RepairArgs) : Prog Unit := do
  if args.err = some .notFound then
    deleteLosers key args.losers
  else if args.value = .nil then
    setLosersFromWinners key args 0
  else do
    let ttl ← Prog.lift (args.value.asDuration >>= deref)
    if ttl = 0 then deleteLosers key args.losers
    else setLosersFromWinners key args ttl

def RepairOperator.run : RepairOperator → RepairArgs → Prog Unit
  | .get key => getRepair key
  | .expire key => existenceRepair key
  | .exists key => existenceRepair key
  | .getTTL key => getTTLRepair key

def RollbackOperator.run : RollbackOperator → List Backend → Prog Unit
  | .none, _ => pure ()
  | .write undo, nodes => do
    let _ ← Engine.write nodes 0 undo .none .concurrent

structure SetRequest where
  key : Key
  data : Bytes
  expiration : Duration
  options : WriteOptions
  deriving DecidableEq, Repr

structure GetRequest where
  key : Key
  options : ReadOptions
  deriving DecidableEq, Repr

structure GetResponse where
  data : Bytes
  deriving DecidableEq, Repr

structure DeleteRequest where
  key : Key
  options : WriteOptions
  deriving DecidableEq, Repr

structure LockRequest where
  key : Key
  data : Bytes
  expiration : Duration
  options : WriteOptions
  deriving DecidableEq, Repr

structure UnlockRequest where
  key : Key
  options : WriteOptions
  deriving DecidableEq, Repr

structure ExpireRequest where
  key : Key
  expiration : Duration
  options : WriteOptions
  deriving DecidableEq, Repr

structure ExpireResponse where
  exists' : Bool
  deriving DecidableEq, Repr

structure ExistsRequest where
  key : Key
  options : ReadOptions
  deriving DecidableEq, Repr

structure ExistsResponse where
  exists' : Bool
  deriving DecidableEq, Repr

structure GetTTLRequest where
  key : Key
  options : ReadOptions
  deriving DecidableEq, Repr

structure GetTTLResponse where
  ttl : Option Duration
  deriving DecidableEq, Repr

namespace CoreService

variable (s : CoreService) (cluster : Cluster)

def performWrite (key : Key) (options : WriteOptions) (operator : WriteOperator)
    (rollback : RollbackOperator) (mode : OperationMode) : Prog (Except Error Unit) :=
  match cluster.write key (s.writeConsistency options) with
  | .error err => pure (.error err)
  | .ok view =>
    let backends := if mode = .sequential then sortNodes view.backends else view.backends
    Engine.write backends view.acknowledgeRequired operator rollback mode

def performFlushDb : Prog (Except Error Unit) :=
  match cluster.flushDB with
  | .error err => pure (.error err)
  | .ok view => Engine.write view.backends view.acknowledgeRequired .flushDB .none .concurrent

def performRead (key : Key) (options : ReadOptions) (readOperator : ReadOperator)
    (repairOperator : RepairOperator) (comparer : ValueComparer) : Prog (Except Error Value) :=
  match cluster.read key (s.readConsistency options) with
  | .error err => pure (.error err)
  | .ok view =>
    Engine.read view.backends view.voteRequired readOperator (some repairOperator) comparer
      view.votingMode

def set (request : SetRequest) : Prog (Except Status Unit) := do
  let err ← s.performWrite cluster request.key request.options
    (.set request.key request.data request.expiration) (.write (.delete request.key)) .concurrent
  return err.mapError convertErrorToGRPC

def get (request : GetRequest) : Prog (Except Status GetResponse) := do
  match ← s.performRead cluster request.key request.options (.get request.key)
      (.get request.key) byteComparer with
  | .error err => return .error (convertErrorToGRPC err)
  | .ok rawResult => return .ok ⟨← Prog.lift rawResult.asBytes⟩

def delete (request : DeleteRequest) : Prog (Except Status Unit) := do
  let err ← s.performWrite cluster request.key request.options (.delete request.key) .none
    .concurrent
  return err.mapError convertErrorToGRPC

def flushDB : Prog (Except Status Unit) := do
  let err ← performFlushDb cluster
  return err.mapError convertErrorToGRPC

/-- The write runs in address order, so that lockers of the same keys cannot wait on each
other in a cycle. -/
def lock (request : LockRequest) : Prog (Except Status Unit) := do
  let err ← s.performWrite cluster request.key request.options
    (.lock request.key request.data request.expiration) (.write (.unlock request.key))
    .sequential
  return err.mapError convertErrorToGRPC

def unlock (request : UnlockRequest) : Prog (Except Status Unit) := do
  let err ← s.performWrite cluster request.key request.options (.unlock request.key) .none
    .concurrent
  return err.mapError convertErrorToGRPC

def expire (request : ExpireRequest) : Prog (Except Status ExpireResponse) := do
  match ← s.performRead cluster request.key ⟨request.options.consistency⟩
      (.expire request.key request.expiration) (.expire request.key) booleanComparer with
  | .error .notFound => return .ok ⟨false⟩
  | .error err => return .error (convertErrorToGRPC err)
  | .ok rawResult => return .ok ⟨← Prog.lift rawResult.asBool⟩

def getTTL (request : GetTTLRequest) : Prog (Except Status GetTTLResponse) := do
  match ← s.performRead cluster request.key request.options (.ttl request.key)
      (.getTTL request.key) durationComparer with
  | .error err => return .error (convertErrorToGRPC err)
  | .ok rawResult =>
    if rawResult = .nil then return .ok ⟨none⟩
    else return .ok ⟨← Prog.lift rawResult.asDuration⟩

end CoreService

def CoreService.exists (s : CoreService) (cluster : Cluster) (request : ExistsRequest) :
    Prog (Except Status ExistsResponse) := do
  match ← s.performRead cluster request.key request.options (.exists request.key)
      (.exists request.key) booleanComparer with
  | .error .notFound => return .ok ⟨false⟩
  | .error err => return .error (convertErrorToGRPC err)
  | .ok rawResult => return .ok ⟨← Prog.lift rawResult.asBool⟩

end KeyValueStore
