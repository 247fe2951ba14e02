import KeyValueStore.EngineWrites

set_option autoImplicit false

/-!
# Rolling back a failed write

A `Set` or a `Lock` short of its acknowledgements fails with `ErrConsistency` and hands the
backends that did acknowledge to its rollback hook: `Set` rolls back with `Delete`, `Lock` with
`Unlock`. A lock is only ever taken where the key was free, so deleting it gives the backend
back its entry. A `Set` may have overwritten a value; deleting it leaves no value at all.
-/

namespace KeyValueStore

variable (svc : CoreService) (cluster : Cluster)

theorem settle_nil (fleet : Fleet) : settle [] fleet = .ok fleet := rfl

/-- The rollback of a write whose undo acts as `f`, run to completion: every rolled-back
backend is left with `f` of its store. -/
theorem settle_rollback {undo : WriteOperator} {f : Store → Store} (h : undo.Acts f)
    (hf : ∀ s, f (f s) = f s) (acked : List Backend) (fleet : Fleet) :
    settle [.rollback (.write undo) acked] fleet =
      .ok (fun b => if b ∈ acked then f (fleet b) else fleet b) := by
  simp only [settle, List.foldlM, Task.prog, RollbackOperator.run, Engine.write, Prog.bind_eq,
    Prog.write_bind, Prog.exec_write, QuorumEngine.write_zero, QuorumEngine.writeConcurrent_of_acts _ h hf]
  simp [Dispatch.reliable]
  rfl

theorem performWrite_exec (key : Key) (options : WriteOptions) (operator : WriteOperator)
    (rollback : RollbackOperator) (mode : OperationMode) {view : WriteView}
    (hview : cluster.write key (svc.writeConsistency options) = .ok view) (ds : List Dispatch)
    (fleet : Fleet) :
    (do
        let err ← svc.performWrite cluster key options operator rollback mode
        return err.mapError convertErrorToGRPC : Prog (Except Status Unit)).exec ds fleet =
      (fun r : WriteOutcome × Fleet => (r.1.result.mapError convertErrorToGRPC, r.2,
          match r.1.rollback with
          | some acked => [Task.rollback rollback acked]
          | none => [])) <$>
        QuorumEngine.write fleet (ds.headD .reliable)
          (if mode = .sequential then sortNodes view.backends else view.backends)
          view.acknowledgeRequired operator mode := by
  simp only [CoreService.performWrite, hview, Engine.write, Prog.bind_eq, Prog.write_bind,
    Prog.ret_bind, Prog.exec_write, Prog.exec_ret]
  cases QuorumEngine.write fleet (ds.headD .reliable)
      (if mode = .sequential then sortNodes view.backends else view.backends)
      view.acknowledgeRequired operator mode with
  | error p => rfl
  | ok r =>
    obtain ⟨⟨result, rollback⟩, fleet'⟩ := r
    cases rollback <;> rfl

theorem performWrite_exec_error (key : Key) (options : WriteOptions) (operator : WriteOperator)
    (rollback : RollbackOperator) (mode : OperationMode) {err : Error}
    (hview : cluster.write key (svc.writeConsistency options) = .error err) (ds : List Dispatch)
    (fleet : Fleet) :
    (do
        let err ← svc.performWrite cluster key options operator rollback mode
        return err.mapError convertErrorToGRPC : Prog (Except Status Unit)).exec ds fleet =
      .ok (.error (convertErrorToGRPC err), fleet, []) := by
  simp only [CoreService.performWrite, hview, Prog.bind_eq, Prog.pure_eq, Prog.ret_bind,
    Prog.exec_ret]
  rfl

theorem set_exec (request : SetRequest) {view : WriteView}
    (hview : cluster.write request.key (svc.writeConsistency request.options) = .ok view)
    (ds : List Dispatch) (fleet : Fleet) :
    (svc.set cluster request).exec ds fleet =
      (fun r : WriteOutcome × Fleet => (r.1.result.mapError convertErrorToGRPC, r.2,
          match r.1.rollback with
          | some acked => [Task.rollback (.write (.delete request.key)) acked]
          | none => [])) <$>
        QuorumEngine.write fleet (ds.headD .reliable) view.backends view.acknowledgeRequired
          (.set request.key request.data request.expiration) .concurrent :=
  performWrite_exec svc cluster _ _ _ _ _ hview ds fleet

theorem lock_exec (request : LockRequest) {view : WriteView}
    (hview : cluster.write request.key (svc.writeConsistency request.options) = .ok view)
    (ds : List Dispatch) (fleet : Fleet) :
    (svc.lock cluster request).exec ds fleet =
      (fun r : WriteOutcome × Fleet => (r.1.result.mapError convertErrorToGRPC, r.2,
          match r.1.rollback with
          | some acked => [Task.rollback (.write (.unlock request.key)) acked]
          | none => [])) <$>
        QuorumEngine.write fleet (ds.headD .reliable) (sortNodes view.backends)
          view.acknowledgeRequired (.lock request.key request.data request.expiration) .sequential :=
  performWrite_exec svc cluster _ _ _ _ _ hview ds fleet

theorem set_failure_rollback (request : SetRequest) (fleet fleet' : Fleet) (ds : List Dispatch)
    (st : Status) (tasks : List Task)
    (h : (svc.set cluster request).exec ds fleet = .ok (.error st, fleet', tasks)) :
    ∃ acked : List Backend,
      (∀ b ∈ acked, fleet' b request.key = some ⟨request.data, expiry request.expiration⟩) ∧
      ∀ fleet'', settle tasks fleet' = .ok fleet'' →
        ∀ b, fleet'' b request.key = if b ∈ acked then none else fleet b request.key := by
  cases hv : cluster.write request.key (svc.writeConsistency request.options) with
  | error err =>
    rw [CoreService.set, performWrite_exec_error svc cluster _ _ _ _ _ hv, Except.ok.injEq,
      Prod.mk.injEq] at h
    obtain ⟨-, rfl, rfl⟩ := h
    exact ⟨[], by simp, fun fleet'' hs b => by cases hs; simp⟩
  | ok view =>
    rw [set_exec svc cluster request hv,
      QuorumEngine.write_of_acts _ (WriteOperator.acts_set _ _ _) (Store.set_set · _ _ _)] at h
    set d := ds.headD .reliable
    set acked := view.backends.filter (fun b => !d.faulty b) with hacked
    have hmem : ∀ b, b ∈ acked ↔ b ∈ view.backends ∧ d.faulty b = false := by simp [acked]
    by_cases hok : view.acknowledgeRequired ≤ acked.length
    · simp [hok, Functor.map, Except.map, Except.mapError] at h
    simp only [hok, if_false, Functor.map, Except.map, Except.ok.injEq, Prod.mk.injEq] at h
    obtain ⟨-, rfl, rfl⟩ := h
    refine ⟨acked, fun b hb => by simp [(hmem b).mp hb], fun fleet'' hs b => ?_⟩
    have hkeep : b ∉ acked → (if b ∈ view.backends ∧ d.faulty b = false
        then (fleet b).set request.key request.data request.expiration else fleet b) request.key =
        fleet b request.key := fun hb => by rw [if_neg ((hmem b).not.mp hb)]
    by_cases hnil : acked = []
    · simp only [hnil, if_true, List.nil_append, settle_nil, Except.ok.injEq] at hs
      subst hs
      simp [hnil, hkeep]
    · simp only [hnil, if_false, List.append_nil, settle_rollback (WriteOperator.acts_delete _)
        (Store.delete_delete · _), Except.ok.injEq] at hs
      subst hs
      by_cases hb : b ∈ acked <;> simp [hb, hkeep]

theorem lock_failure_rollback (request : LockRequest) (fleet fleet' : Fleet) (ds : List Dispatch)
    (st : Status) (tasks : List Task)
    (h : (svc.lock cluster request).exec ds fleet = .ok (.error st, fleet', tasks)) :
    ∀ fleet'', settle tasks fleet' = .ok fleet'' → ∀ b, fleet'' b request.key = fleet b request.key := by
  cases hv : cluster.write request.key (svc.writeConsistency request.options) with
  | error err =>
    rw [CoreService.lock, performWrite_exec_error svc cluster _ _ _ _ _ hv, Except.ok.injEq,
      Prod.mk.injEq] at h
    obtain ⟨-, rfl, rfl⟩ := h
    intro fleet'' hs b
    cases hs
    rfl
  | ok view =>
    rw [lock_exec svc cluster request hv] at h
    generalize ds.headD .reliable = d at h
    cases hw : QuorumEngine.writeSequential (.lock request.key request.data request.expiration)
        d (sortNodes view.backends) fleet with
    | error p => simp [QuorumEngine.write, hw, bind, Except.bind, Functor.map, Except.map] at h
    | ok r =>
      obtain ⟨acked, fleet₁⟩ := r
      have hlock := QuorumEngine.writeSequential_lock _ _ _ _ _ _ _ _ hw
      by_cases hack : view.acknowledgeRequired ≤ acked.length
      · simp [QuorumEngine.write, hw, hack, bind, Except.bind, pure, Except.pure, Functor.map,
          Except.map, Except.mapError] at h
      simp only [QuorumEngine.write, hw, hack, if_false, bind, Except.bind, pure, Except.pure,
        Functor.map, Except.map, Except.ok.injEq, Prod.mk.injEq] at h
      obtain ⟨-, rfl, rfl⟩ := h
      intro fleet'' hs b
      by_cases hnil : acked = []
      · simp only [hnil, if_true, List.nil_append, settle_nil, Except.ok.injEq] at hs
        subst hs
        rw [(hlock b).2 (by simp [hnil])]
      · simp only [hnil, if_false, List.append_nil, settle_rollback (WriteOperator.acts_unlock _)
          (Store.delete_delete · _), Except.ok.injEq] at hs
        subst hs
        by_cases hb : b ∈ acked
        · simp [hb, ((hlock b).1 hb).1]
        · simp [hb, (hlock b).2 hb]

/-- After its rollback, a failed `Set` has lost, on the backends where it succeeded, the value
they held before; a failed `Lock` has restored every backend. -/
theorem failed_write_rollback (fleet : Fleet) (ds : List Dispatch) :
    (∀ (request : SetRequest) (st : Status) (fleet' : Fleet) (tasks : List Task),
      (svc.set cluster request).exec ds fleet = .ok (.error st, fleet', tasks) →
      ∃ acked : List Backend,
        (∀ b ∈ acked, fleet' b request.key = some ⟨request.data, expiry request.expiration⟩) ∧
        ∀ fleet'', settle tasks fleet' = .ok fleet'' →
          ∀ b, fleet'' b request.key = if b ∈ acked then none else fleet b request.key) ∧
    (∀ (request : LockRequest) (st : Status) (fleet' : Fleet) (tasks : List Task),
      (svc.lock cluster request).exec ds fleet = .ok (.error st, fleet', tasks) →
      ∀ fleet'', settle tasks fleet' = .ok fleet'' →
        ∀ b, fleet'' b request.key = fleet b request.key) :=
  ⟨fun request st fleet' tasks h => set_failure_rollback svc cluster request fleet fleet' ds st tasks h,
    fun request st fleet' tasks h => lock_failure_rollback svc cluster request fleet fleet' ds st tasks h⟩

def replicaA : Backend := ⟨"a"⟩

def replicaB : Backend := ⟨"b"⟩

def pairCluster : Cluster where
  read _ _ := .ok ⟨[replicaA, replicaB], 2, .voteOnNotFound⟩
  write _ _ := .ok ⟨[replicaA, replicaB], 2⟩
  flushDB := .ok ⟨[replicaA, replicaB], 2⟩

/-- `a` holds `"k" = [0]`; `b` holds nothing. -/
def heldOnA : Fleet := fun b key => if b = replicaA ∧ key = "k" then some ⟨[0], none⟩ else none

def bFails : Dispatch := ⟨fun b => b = replicaB, fun _ => 0⟩

/-- `Set("k", [1])` fails (only `a` acknowledges); after the rollback `a` has lost `[0]`. -/
theorem set_rollback_loses_prior_value :
    heldOnA replicaA "k" = some ⟨[0], none⟩ ∧
    (((CoreService.new []).set pairCluster ⟨"k", [1], 0, {}⟩).exec [bFails] heldOnA).map (·.1) =
      .ok (.error ⟨.unavailable, .consistency⟩) ∧
    (((CoreService.new []).set pairCluster ⟨"k", [1], 0, {}⟩).exec [bFails] heldOnA >>=
      fun r => settle r.2.2 r.2.1).map (· replicaA "k") = .ok none := by
  decide

end KeyValueStore
