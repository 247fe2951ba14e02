import Mathlib.Data.String.Basic

set_option autoImplicit false

/-!
# Values, errors and options of the key-value store

The engine is generic in what its operators return: the service boxes `[]byte`, `bool` and
`*time.Duration` results in an `interface{}`. `Value` is that box. It keeps Go's two nils
apart: the untyped `nil` interface, and a non-nil interface that holds a nil `*time.Duration`,
which is what `Backend.TTL` reports for a key with no expiration. Type assertions and pointer
dereferences are partial; their failures are the runtime panics of `Panic`.
-/

namespace KeyValueStore

/-- `time.Duration`: a signed 64-bit count of nanoseconds. -/
abbrev Duration := BitVec 64

abbrev Bytes := List UInt8

abbrev Key := String

inductive Panic where
  | nilDereference
  | typeAssertion
  deriving DecidableEq, Repr

inductive Value where
  | nil
  | bytes (data : Bytes)
  | bool (b : Bool)
  | duration (pointer : Option Duration)
  deriving DecidableEq, Repr

instance instDecidableEqExcept {ε α : Type} [DecidableEq ε] [DecidableEq α] :
    DecidableEq (Except ε α)
  | .ok a, .ok b => decidable_of_iff (a = b) ⟨congrArg _, Except.ok.inj⟩
  | .error a, .error b => decidable_of_iff (a = b) ⟨congrArg _, Except.error.inj⟩
  | .ok _, .error _ => isFalse Except.noConfusion
  | .error _, .ok _ => isFalse Except.noConfusion

theorem Except.bind_eq_ok {ε α β : Type} {x : Except ε α} {f : α → Except ε β} {b : β} :
    x >>= f = .ok b ↔ ∃ a, x = .ok a ∧ f a = .ok b := by
  cases x <;> simp [bind, Except.bind]

@[simp] theorem Except.ok_bind {ε α β : Type} (a : α) (f : α → Except ε β) :
    (Except.ok a >>= f) = f a := rfl

theorem Except.map_eq_ok {ε α β : Type} {x : Except ε α} {f : α → β} {b : β} :
    f <$> x = .ok b ↔ ∃ a, x = .ok a ∧ f a = b := by
  cases x <;> simp [Functor.map, Except.map]

namespace Value

/-- `x.([]byte)` -/
def asBytes : Value → Except Panic Bytes
  | .bytes data => .ok data
  | _ => .error .typeAssertion

/-- `x.(bool)` -/
def asBool : Value → Except Panic Bool
  | .bool b => .ok b
  | _ => .error .typeAssertion

/-- `x.(*time.Duration)` -/
def asDuration : Value → Except Panic (Option Duration)
  | .duration pointer => .ok pointer
  | _ => .error .typeAssertion

end Value

/-- `*p` for a `*time.Duration`. -/
def deref : Option Duration → Except Panic Duration
  | some d => .ok d
  | none => .error .nilDereference

@[simp] theorem asBytes_bytes (data : Bytes) : (Value.bytes data).asBytes = .ok data := rfl
@[simp] theorem asBool_bool (b : Bool) : (Value.bool b).asBool = .ok b := rfl
@[simp] theorem asDuration_duration (p : Option Duration) :
    (Value.duration p).asDuration = .ok p := rfl
@[simp] theorem deref_some (d : Duration) : deref (some d) = .ok d := rfl
@[simp] theorem deref_none : deref none = .error .nilDereference := rfl

/-- The errors that reach the service: the store's own (`ErrNotFound`, `ErrConsistency`,
`ErrNotAcquired`, `ErrClosed`), the context's, and any other one, such as a transport
failure. -/
inductive Error where
  | notFound
  | consistency
  | notAcquired
  | closed
  | canceled
  | deadlineExceeded
  | internal
  deriving DecidableEq, Repr

inductive ConsistencyLevel where
  | default
  | one
  | majority
  | all
  deriving DecidableEq, Repr

structure ReadOptions where
  consistency : ConsistencyLevel := .default
  deriving DecidableEq, Repr

structure WriteOptions where
  consistency : ConsistencyLevel := .default
  deriving DecidableEq, Repr

/-- The gRPC codes the service answers with. -/
inductive Code where
  | notFound
  | unavailable
  | canceled
  | deadlineExceeded
  | internal
  deriving DecidableEq, Repr

/-- `status.Error(code, text)`; the text is that of the error `message`. -/
structure Status where
  code : Code
  message : Error
  deriving DecidableEq, Repr

end KeyValueStore
