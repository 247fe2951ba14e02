import KeyValueStore.Engine

set_option autoImplicit false

/-!
# What an engine write does to the fleet

Most write operators act the same way on every store: `Set`, `Delete`, `Unlock`, `FlushDB`,
and the repairs' `Set` of a `[]byte` value never fail and are idempotent. For those a write
leaves the operator's result on every backend whose dispatch did not fail, and the others as
they were. `Lock` is the exception: it fails where the key is held, and its sequential write
stops there.
-/

namespace KeyValueStore

namespace WriteOperator

/-- The operator never fails on a backend that answers, and it acts as `f`. -/
def Acts (operator : WriteOperator) (f : Store → Store) : Prop :=
  ∀ s, operator.run s = .ok (.ok (f s))

theorem acts_set (key : Key) (data : Bytes) (expiration : Duration) :
    (set key data expiration).Acts (fun s => s.set key data expiration) := fun _ => rfl

theorem acts_setValue (key : Key) (data : Bytes) (ttl : Duration) :
    (setValue key (.bytes data) ttl).Acts (fun s => s.set key data ttl) := fun _ => rfl

theorem acts_delete (key : Key) : (delete key).Acts (fun s => s.delete key) := fun _ => rfl

theorem acts_unlock (key : Key) : (unlock key).Acts (fun s => s.delete key) := fun _ => rfl

end WriteOperator

theorem Store.set_set (s : Store) (key : Key) (data : Bytes) (expiration : Duration) :
    (s.set key data expiration).set key data expiration = s.set key data expiration := by
  simp [Store.set]

theorem Store.delete_delete (s : Store) (key : Key) : (s.delete key).delete key = s.delete key := by
  simp [Store.delete]

namespace QuorumEngine

variable {operator : WriteOperator} {f : Store → Store} (d : Dispatch)

theorem callWrite_of_acts (h : operator.Acts f) (b : Backend) (fleet : Fleet) :
    callWrite operator d b fleet =
      .ok (!d.faulty b, if d.faulty b then fleet else Function.update fleet b (f (fleet b))) := by
  unfold callWrite
  cases d.faulty b
  · simp [h (fleet b)]; rfl
  · rfl

theorem writeConcurrent_of_acts (h : operator.Acts f) (hf : ∀ s, f (f s) = f s) :
    ∀ (nodes : List Backend) (fleet : Fleet),
      writeConcurrent operator d nodes fleet =
        .ok (nodes.filter (fun b => !d.faulty b),
          fun b => if b ∈ nodes ∧ d.faulty b = false then f (fleet b) else fleet b)
  | [], fleet => rfl
  | b :: bs, fleet => by
    rw [writeConcurrent, callWrite_of_acts d h]
    simp only [bind, Except.bind, writeConcurrent_of_acts h hf bs]
    refine congrArg Except.ok (Prod.ext ?_ (funext fun c => ?_))
    · cases hb : d.faulty b <;> simp [List.filter_cons, hb]
    · by_cases hc : c = b
      · subst hc
        cases hb : d.faulty c <;> by_cases hm : c ∈ bs <;> simp [hb, hm, hf]
      · cases hb : d.faulty b <;> simp [hc, hb]

theorem write_of_acts (h : operator.Acts f) (hf : ∀ s, f (f s) = f s) (fleet : Fleet)
    (nodes : List Backend) (acks : Nat) :
    write fleet d nodes acks operator .concurrent =
      .ok (if acks ≤ (nodes.filter (fun b => !d.faulty b)).length then ⟨.ok (), none⟩
        else ⟨.error .consistency, if nodes.filter (fun b => !d.faulty b) = [] then none
          else some (nodes.filter (fun b => !d.faulty b))⟩,
        fun b => if b ∈ nodes ∧ d.faulty b = false then f (fleet b) else fleet b) := by
  simp only [write, writeConcurrent_of_acts d h hf, bind, Except.bind]
  split <;> rfl

theorem write_zero (fleet : Fleet) (nodes : List Backend) :
    write fleet d nodes 0 operator .concurrent =
      (fun r => (⟨.ok (), none⟩, r.2)) <$> writeConcurrent operator d nodes fleet := by
  cases h : writeConcurrent operator d nodes fleet <;> simp [write, h]

theorem callWrite_lock (key : Key) (data : Bytes) (expiration : Duration) (c : Backend)
    (fleet : Fleet) :
    callWrite (.lock key data expiration) d c fleet =
      .ok (if d.faulty c = false ∧ fleet c key = none
        then (true, Function.update fleet c ((fleet c).set key data expiration))
        else (false, fleet)) := by
  unfold callWrite
  cases hc : d.faulty c
  · cases hk : fleet c key <;> simp [WriteOperator.run, Store.lock, hk] <;> rfl
  · rfl

/-- A sequential `Lock` write: each acknowledged backend had the key free and now holds the
token; every other backend is as it was. -/
theorem writeSequential_lock (key : Key) (data : Bytes) (expiration : Duration) :
    ∀ (nodes : List Backend) (fleet fleet' : Fleet) (acked : List Backend),
      writeSequential (.lock key data expiration) d nodes fleet = .ok (acked, fleet') →
        ∀ b, (b ∈ acked → fleet b key = none ∧ fleet' b = (fleet b).set key data expiration) ∧
          (b ∉ acked → fleet' b = fleet b)
  | [], fleet, fleet', acked, h, b => by
    simp only [writeSequential, Except.ok.injEq, Prod.mk.injEq] at h
    obtain ⟨rfl, rfl⟩ := h
    simp
  | c :: cs, fleet, fleet', acked, h, b => by
    rw [writeSequential, callWrite_lock] at h
    by_cases hok : d.faulty c = false ∧ fleet c key = none
    · rw [if_pos hok] at h
      simp only [bind, Except.bind, if_true] at h
      cases hrest : writeSequential (.lock key data expiration) d cs
          (Function.update fleet c ((fleet c).set key data expiration)) with
      | error p => rw [hrest] at h; cases h
      | ok r =>
        rw [hrest] at h
        simp only [pure, Except.pure, Except.ok.injEq, Prod.mk.injEq] at h
        obtain ⟨rfl, rfl⟩ := h
        have ih := writeSequential_lock key data expiration cs _ _ _ hrest
        have hc_not : c ∉ r.1 := fun hm => by simpa using ((ih c).1 hm).1
        refine ⟨fun hb => ?_, fun hb => ?_⟩
        · rcases List.mem_cons.mp hb with rfl | hb
          · exact ⟨hok.2, by simpa using (ih b).2 hc_not⟩
          · have hbc : b ≠ c := fun e => hc_not (e ▸ hb)
            simpa [hbc] using (ih b).1 hb
        · have hbc : b ≠ c := fun e => hb (e ▸ List.mem_cons_self _ _)
          simpa [hbc] using (ih b).2 (fun hm => hb (List.mem_cons_of_mem _ hm))
    · rw [if_neg hok] at h
      simp only [bind, Except.bind, Bool.false_eq_true, if_false, pure, Except.pure,
        Except.ok.injEq, Prod.mk.injEq] at h
      obtain ⟨rfl, rfl⟩ := h
      simp

end QuorumEngine

end KeyValueStore
