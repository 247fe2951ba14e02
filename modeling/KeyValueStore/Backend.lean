import KeyValueStore.Values
import Mathlib.Data.List.Lex

set_option autoImplicit false

/-!
# The backend contract

A backend is one replica, identified by its address. Its state is a map from keys to entries;
an entry is the stored bytes and the remaining time to live, `none` when the key does not
expire. The operations are those of the `Backend` interface as the repository's redis driver
and its tests implement them: `Lock` is a set-if-absent of the token, `Unlock` a delete of the
key whatever it holds. A transport failure is not part of a backend's state: the engine
decides, per dispatch, which backends fail.
-/

namespace KeyValueStore

structure Backend where
  address : String
  deriving DecidableEq, Repr

/-- Backends in the order of their addresses, compared as Go compares strings. -/
instance : LinearOrder Backend :=
  LinearOrder.lift' (fun b => b.address.toList)
    (fun a b h => by cases a; cases b; simpa using String.ext h)

structure Entry where
  data : Bytes
  ttl : Option Duration
  deriving DecidableEq, Repr

abbrev Store := Key → Option Entry

/-- The states of all backends. -/
abbrev Fleet := Backend → Store

/-- Every backend empty. -/
def Fleet.empty : Fleet := fun _ _ => none

/-- The expiration a write records: zero means that the key does not expire. -/
def expiry (expiration : Duration) : Option Duration :=
  if expiration = 0 then none else some expiration

namespace Store

def get (s : Store) (key : Key) : Except Error Bytes :=
  match s key with
  | some e => .ok e.data
  | none => .error .notFound

def set (s : Store) (key : Key) (data : Bytes) (expiration : Duration) : Store :=
  Function.update s key (some ⟨data, expiry expiration⟩)

def delete (s : Store) (key : Key) : Store :=
  Function.update s key none

def ttl (s : Store) (key : Key) : Except Error (Option Duration) :=
  match s key with
  | some e => .ok e.ttl
  | none => .error .notFound

def expire (s : Store) (key : Key) (expiration : Duration) : Except Error Store :=
  match s key with
  | some e => .ok (Function.update s key (some { e with ttl := some expiration }))
  | none => .error .notFound

def lock (s : Store) (key : Key) (data : Bytes) (expiration : Duration) : Except Error Store :=
  match s key with
  | some _ => .error .notAcquired
  | none => .ok (s.set key data expiration)

def unlock (s : Store) (key : Key) : Store :=
  s.delete key

def flushDB : Store := fun _ => none

@[simp] theorem set_same (s : Store) (key : Key) (data : Bytes) (expiration : Duration) :
    s.set key data expiration key = some ⟨data, expiry expiration⟩ := by
  simp [set]

@[simp] theorem set_ne (s : Store) {key other : Key} (data : Bytes) (expiration : Duration)
    (h : other ≠ key) : s.set key data expiration other = s other := by
  simp [set, h]

@[simp] theorem delete_same (s : Store) (key : Key) : s.delete key key = none := by
  simp [delete]

@[simp] theorem delete_ne (s : Store) {key other : Key} (h : other ≠ key) :
    s.delete key other = s other := by
  simp [delete, h]

end Store

def Store.exists (s : Store) (key : Key) : Bool :=
  (s key).isSome

theorem expiry_ne_zero (expiration : Duration) : expiry expiration ≠ some 0 := by
  unfold expiry
  split <;> simp_all

end KeyValueStore
