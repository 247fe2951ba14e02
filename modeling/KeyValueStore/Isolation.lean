import KeyValueStore.Deletion

set_option autoImplicit false

/-!
# Requests on different keys do not interfere

Every closure of the service captures its request's key: the read and write operators, the
rollbacks, and the repairs with the reads and writes nested in them. So every engine call a
request makes, and every call of every hook it fires, after any answer, is on that key
(`Prog.OnKey`), and an engine call on one key leaves every backend's entry for another key as it
was. Over the world of `KeyValueStore.Durability`, requests on other keys and their hooks,
interleaved in any order, never change an entry for `key`.
-/

namespace KeyValueStore

/-- Whether a write closure writes `key` alone. -/
def WriteOperator.onKey (key : Key) : WriteOperator → Bool
  | .set k _ _ => k == key
  | .setValue k _ _ => k == key
  | .delete k => k == key
  | .lock k _ _ => k == key
  | .unlock k => k == key
  | .flushDB => false

def RollbackOperator.onKey (key : Key) : RollbackOperator → Bool
  | .none => true
  | .write undo => undo.onKey key

def RepairOperator.key : RepairOperator → Key
  | .get k => k
  | .expire k => k
  | .exists k => k
  | .getTTL k => k

section OtherKey

variable {key : Key}

theorem ReadOperator.run_other_key {operator : ReadOperator} (h : operator.key ≠ key)
    (s : Store) : (operator.run s).2 key = s key := by
  cases operator with
  | expire k e =>
    have hk : k ≠ key := h
    cases hs : s k <;> simp [ReadOperator.run, Store.expire, hs, Function.update_noteq (Ne.symm hk)]
  | _ => rfl

theorem WriteOperator.run_update {operator : WriteOperator} {k : Key} (hop : operator.onKey k)
    {s s' : Store} (h : operator.run s = .ok (.ok s')) : ∃ v, s' = Function.update s k v := by
  cases operator <;> simp only [WriteOperator.onKey, beq_iff_eq, Bool.false_eq_true] at hop <;>
    subst hop
  case setValue value _ => cases value <;> cases h; exact ⟨_, rfl⟩
  case lock =>
    simp only [WriteOperator.run, Store.lock] at h
    split at h
    · cases h
    · cases h; exact ⟨_, rfl⟩
  all_goals cases h; exact ⟨_, rfl⟩

theorem WriteOperator.run_other_key {operator : WriteOperator} {k : Key} (hop : operator.onKey k)
    (hk : k ≠ key) {s s' : Store} (h : operator.run s = .ok (.ok s')) : s' key = s key := by
  obtain ⟨v, rfl⟩ := WriteOperator.run_update hop h
  exact Function.update_noteq (Ne.symm hk) _ _

theorem read_other_key {fleet fleet' : Fleet} {d : Dispatch} {rn : List Backend} {votes : Nat}
    {operator : ReadOperator} {cmp : ValueComparer} {mode : VotingMode} {o : ReadOutcome}
    (hk : operator.key ≠ key)
    (h : QuorumEngine.read fleet d rn votes operator cmp mode = .ok (o, fleet')) (b : Backend) :
    fleet' b key = fleet b key := by
  rw [QuorumEngine.read_eq, Except.map_eq_ok] at h
  obtain ⟨G, -, h⟩ := h
  simp only [Prod.mk.injEq] at h
  obtain ⟨-, rfl⟩ := h
  rw [QuorumEngine.dispatchRead_eq]
  dsimp only
  split
  · exact ReadOperator.run_other_key hk _
  · rfl

section Writes

variable {operator : WriteOperator} {k : Key} (hop : operator.onKey k) (hk : k ≠ key)
  {d : Dispatch}
include hop hk

theorem callWrite_other_key {b : Backend} {fleet fleet' : Fleet} {ok : Bool}
    (h : QuorumEngine.callWrite operator d b fleet = .ok (ok, fleet')) (c : Backend) :
    fleet' c key = fleet c key := by
  unfold QuorumEngine.callWrite at h
  split at h
  · cases h; rfl
  · cases hr : operator.run (fleet b) with
    | error p => simp [hr, bind, Except.bind] at h
    | ok r =>
      cases r with
      | error e =>
        simp only [hr, Except.ok_bind, pure, Except.pure, Except.ok.injEq] at h
        cases h; rfl
      | ok s =>
        simp only [hr, Except.ok_bind, pure, Except.pure, Except.ok.injEq, Prod.mk.injEq] at h
        obtain ⟨-, rfl⟩ := h
        by_cases hc : c = b
        · subst hc
          rw [Function.update_same]
          exact WriteOperator.run_other_key hop hk hr
        · rw [Function.update_noteq hc]

theorem writeConcurrent_other_key : ∀ {nodes : List Backend} {fleet fleet' : Fleet}
    {acked : List Backend},
    QuorumEngine.writeConcurrent operator d nodes fleet = .ok (acked, fleet') →
      ∀ c, fleet' c key = fleet c key
  | [], _, _, _, h, c => by cases h; rfl
  | b :: bs, fleet, fleet', acked, h, c => by
    rw [QuorumEngine.writeConcurrent, Except.bind_eq_ok] at h
    obtain ⟨⟨ok, fleet₁⟩, h₁, h⟩ := h
    obtain ⟨⟨acked₂, fleet₂⟩, h₂, h⟩ := Except.bind_eq_ok.mp h
    cases h
    rw [writeConcurrent_other_key h₂ c, callWrite_other_key hop hk h₁ c]

theorem writeSequential_other_key : ∀ {nodes : List Backend} {fleet fleet' : Fleet}
    {acked : List Backend},
    QuorumEngine.writeSequential operator d nodes fleet = .ok (acked, fleet') →
      ∀ c, fleet' c key = fleet c key
  | [], _, _, _, h, c => by cases h; rfl
  | b :: bs, fleet, fleet', acked, h, c => by
    rw [QuorumEngine.writeSequential, Except.bind_eq_ok] at h
    obtain ⟨⟨ok, fleet₁⟩, h₁, h⟩ := h
    cases ok
    · cases h
      exact callWrite_other_key hop hk h₁ c
    · obtain ⟨⟨acked₂, fleet₂⟩, h₂, h⟩ := Except.bind_eq_ok.mp h
      cases h
      rw [writeSequential_other_key h₂ c, callWrite_other_key hop hk h₁ c]

theorem write_other_key {fleet fleet' : Fleet} {nodes : List Backend} {acks : Nat}
    {mode : OperationMode} {o : WriteOutcome}
    (h : QuorumEngine.write fleet d nodes acks operator mode = .ok (o, fleet')) (c : Backend) :
    fleet' c key = fleet c key := by
  have hfleet : ∀ {acked fleet₁}, (if acks ≤ acked.length then
      (pure (⟨.ok (), none⟩, fleet₁) : Except Panic (WriteOutcome × Fleet))
      else pure (⟨.error .consistency, if acked = [] then none else some acked⟩, fleet₁)) =
        .ok (o, fleet') → fleet' = fleet₁ := by
    intro acked fleet₁ h
    split at h <;> cases h <;> rfl
  cases mode <;> simp only [QuorumEngine.write] at h <;>
    obtain ⟨⟨acked, fleet₁⟩, h₁, h⟩ := Except.bind_eq_ok.mp h <;> cases hfleet h
  · exact writeConcurrent_other_key hop hk h₁ c
  · exact writeSequential_other_key hop hk h₁ c

end Writes

end OtherKey

namespace Prog

/-- Every engine call of the program, after every answer, reads or writes `key` alone, and hands
its hooks `key` alone. -/
def OnKey (key : Key) {α : Type} : Prog α → Prop
  | .ret _ => True
  | .panic _ => True
  | .read _ _ operator repair _ _ next =>
    operator.key = key ∧ (∀ r, repair = some r → r.key = key) ∧ ∀ x, (next x).OnKey key
  | .write _ _ operator rollback _ next =>
    operator.onKey key ∧ rollback.onKey key ∧ ∀ x, (next x).OnKey key

variable {key : Key} {α β : Type}

theorem OnKey.bind :
    ∀ {p : Prog α} {f : α → Prog β}, p.OnKey key → (∀ a, (f a).OnKey key) → (p.bind f).OnKey key
  | .ret a, _, _, hf => hf a
  | .panic _, _, _, _ => trivial
  | .read _ _ _ _ _ _ _, _, ⟨hop, hr, hnext⟩, hf =>
    ⟨hop, hr, fun x => OnKey.bind (hnext x) hf⟩
  | .write _ _ _ _ _ _, _, ⟨hop, hr, hnext⟩, hf =>
    ⟨hop, hr, fun x => OnKey.bind (hnext x) hf⟩

theorem lift_bind_onKey (e : Except Panic α) {f : α → Prog β} (hf : ∀ a, (f a).OnKey key) :
    ((Prog.lift e).bind f).OnKey key := by
  cases e with
  | error p => trivial
  | ok a => exact hf a

end Prog

theorem Engine.read_onKey {key : Key} {nodes : List Backend} {votes : Nat}
    {operator : ReadOperator} {repair : Option RepairOperator} {cmp : ValueComparer}
    {mode : VotingMode} (hop : operator.key = key) (hr : ∀ r, repair = some r → r.key = key) :
    (Engine.read nodes votes operator repair cmp mode).OnKey key :=
  ⟨hop, hr, fun _ => trivial⟩

theorem Engine.write_onKey {key : Key} {nodes : List Backend} {acks : Nat}
    {operator : WriteOperator} {rollback : RollbackOperator} {mode : OperationMode}
    (hop : operator.onKey key) (hr : rollback.onKey key) :
    (Engine.write nodes acks operator rollback mode).OnKey key :=
  ⟨hop, hr, fun _ => trivial⟩

def Task.OnKey (key : Key) : Task → Prop
  | .repair r _ => r.key = key
  | .rollback r _ => r.onKey key

section Hooks

variable (k : Key)

theorem deleteLosers_onKey (losers : List Backend) : (deleteLosers k losers).OnKey k :=
  Prog.OnKey.bind (Engine.write_onKey (by simp [WriteOperator.onKey]) rfl) fun _ => trivial

theorem setLosers_onKey (losers : List Backend) (value : Value) (ttl : Duration) :
    (setLosers k losers value ttl).OnKey k :=
  Prog.OnKey.bind (Engine.write_onKey (by simp [WriteOperator.onKey])
    (by simp [RollbackOperator.onKey, WriteOperator.onKey])) fun _ => trivial

theorem setLosersFromWinners_onKey (args : RepairArgs) (ttl : Duration) :
    (setLosersFromWinners k args ttl).OnKey k := by
  refine Prog.OnKey.bind (Engine.read_onKey rfl (by simp)) fun r => ?_
  cases r with
  | error e => trivial
  | ok v => exact setLosers_onKey k _ _ _

theorem getRepair_onKey (args : RepairArgs) : (getRepair k args).OnKey k := by
  unfold getRepair
  split
  · exact deleteLosers_onKey k _
  · refine Prog.OnKey.bind (Engine.read_onKey rfl (by simp)) fun r => ?_
    cases r with
    | error e => trivial
    | ok ttlValue =>
      show Prog.OnKey k (if ttlValue = Value.nil then _ else _)
      split
      · exact setLosers_onKey k _ _ _
      · exact Prog.lift_bind_onKey _ fun t => by
          split
          · exact setLosers_onKey k _ _ _
          · trivial

theorem existenceRepair_onKey (args : RepairArgs) : (existenceRepair k args).OnKey k := by
  unfold existenceRepair
  split
  · exact deleteLosers_onKey k _
  · refine Prog.OnKey.bind (Engine.read_onKey rfl (by simp)) fun r => ?_
    cases r with
    | error e => trivial
    | ok ttlValue =>
      show Prog.OnKey k (if args.value = Value.nil then _ else _)
      split
      · exact setLosersFromWinners_onKey k _ _
      · exact Prog.lift_bind_onKey _ fun t => by
          split
          · exact deleteLosers_onKey k _
          · exact setLosersFromWinners_onKey k _ _

theorem getTTLRepair_onKey (args : RepairArgs) : (getTTLRepair k args).OnKey k := by
  unfold getTTLRepair
  split
  · exact deleteLosers_onKey k _
  · split
    · exact setLosersFromWinners_onKey k _ _
    · exact Prog.lift_bind_onKey _ fun t => by
        split
        · exact deleteLosers_onKey k _
        · exact setLosersFromWinners_onKey k _ _

theorem RepairOperator.run_onKey (repair : RepairOperator) (args : RepairArgs) :
    (repair.run args).OnKey repair.key := by
  cases repair with
  | get k => exact getRepair_onKey k args
  | expire k => exact existenceRepair_onKey k args
  | «exists» k => exact existenceRepair_onKey k args
  | getTTL k => exact getTTLRepair_onKey k args

theorem RollbackOperator.run_onKey {rollback : RollbackOperator} (h : rollback.onKey k)
    (nodes : List Backend) : (rollback.run nodes).OnKey k := by
  cases rollback with
  | none => trivial
  | write undo => exact Prog.OnKey.bind (Engine.write_onKey h rfl) fun _ => trivial

theorem Task.prog_onKey {t : Task} (h : t.OnKey k) : t.prog.OnKey k := by
  cases t with
  | repair repair args => exact (show repair.key = k from h) ▸ RepairOperator.run_onKey repair args
  | rollback rollback nodes => exact RollbackOperator.run_onKey k h nodes

end Hooks

def Request.key : Request → Key
  | .set r => r.key
  | .delete r => r.key
  | .get r => r.key
  | .«exists» r => r.key
  | .expire r => r.key
  | .getTTL r => r.key

section Requests

variable (svc : CoreService) (cluster : Cluster)

theorem set_onKey (r : SetRequest) : (svc.set cluster r).OnKey r.key := by
  unfold CoreService.set CoreService.performWrite
  cases cluster.write r.key (svc.writeConsistency r.options) with
  | error e => trivial
  | ok view =>
    exact Prog.OnKey.bind (Engine.write_onKey (by simp [WriteOperator.onKey])
      (by simp [RollbackOperator.onKey, WriteOperator.onKey])) fun _ => trivial

theorem delete_onKey (r : DeleteRequest) : (svc.delete cluster r).OnKey r.key := by
  unfold CoreService.delete CoreService.performWrite
  cases cluster.write r.key (svc.writeConsistency r.options) with
  | error e => trivial
  | ok view =>
    exact Prog.OnKey.bind (Engine.write_onKey (by simp [WriteOperator.onKey]) rfl) fun _ => trivial

theorem get_onKey (r : GetRequest) : (svc.get cluster r).OnKey r.key := by
  unfold CoreService.get CoreService.performRead
  cases cluster.read r.key (svc.readConsistency r.options) with
  | error e => trivial
  | ok view =>
    refine Prog.OnKey.bind (Engine.read_onKey rfl (by simp [RepairOperator.key])) fun res => ?_
    cases res with
    | error e => trivial
    | ok raw => exact Prog.lift_bind_onKey _ fun _ => trivial

theorem exists_onKey (r : ExistsRequest) : (CoreService.exists svc cluster r).OnKey r.key := by
  unfold CoreService.exists CoreService.performRead
  cases cluster.read r.key (svc.readConsistency r.options) with
  | error e => rcases e with _ | _ <;> trivial
  | ok view =>
    refine Prog.OnKey.bind (Engine.read_onKey rfl (by simp [RepairOperator.key])) fun res => ?_
    rcases res with (_ | _) | raw
    all_goals first | trivial | exact Prog.lift_bind_onKey _ fun _ => trivial

theorem expire_onKey (r : ExpireRequest) : (svc.expire cluster r).OnKey r.key := by
  unfold CoreService.expire CoreService.performRead
  cases cluster.read r.key (svc.readConsistency ⟨r.options.consistency⟩) with
  | error e => rcases e with _ | _ <;> trivial
  | ok view =>
    refine Prog.OnKey.bind (Engine.read_onKey rfl (by simp [RepairOperator.key])) fun res => ?_
    rcases res with (_ | _) | raw
    all_goals first | trivial | exact Prog.lift_bind_onKey _ fun _ => trivial

theorem getTTL_onKey (r : GetTTLRequest) : (svc.getTTL cluster r).OnKey r.key := by
  unfold CoreService.getTTL CoreService.performRead
  cases cluster.read r.key (svc.readConsistency r.options) with
  | error e => trivial
  | ok view =>
    refine Prog.OnKey.bind (Engine.read_onKey rfl (by simp [RepairOperator.key])) fun res => ?_
    cases res with
    | error e => trivial
    | ok raw =>
      show Prog.OnKey _ (if raw = Value.nil then _ else _)
      split
      · trivial
      · exact Prog.lift_bind_onKey _ fun _ => trivial

end Requests

/-- Every backend's entry for `key` is its entry in `E`. -/
def Untouched (key : Key) (E : Backend → Option Entry) (fleet : Fleet) : Prop :=
  ∀ b, fleet b key = E b

namespace Prog

variable {k key : Key} {α : Type}

theorem OnKey.keeps (hk : k ≠ key) (E : Backend → Option Entry) :
    ∀ {p : Prog α}, p.OnKey k → p.Keeps (Untouched key E) (Task.OnKey k)
  | .ret _, _ => trivial
  | .panic _, _ => trivial
  | .read _ _ _ _ _ _ _, ⟨hop, hr, hnext⟩ => by
    intro fleet d o fleet' hP h
    exact ⟨fun b => (read_other_key (hop ▸ hk) h b).trans (hP b), fun r _ h _ => hr r h,
      OnKey.keeps hk E (hnext _)⟩
  | .write _ _ _ _ _ _, ⟨hop, hr, hnext⟩ => by
    intro fleet d o fleet' hP h
    exact ⟨fun b => (write_other_key hop hk h b).trans (hP b), fun _ _ => hr,
      OnKey.keeps hk E (hnext _)⟩

theorem OnKey.advance {p : Prog α} (hp : p.OnKey k) {d : Dispatch} {fleet fleet' : Fleet}
    {rest : Option (Prog α)} {fired : List Task}
    (h : p.advance d fleet = .ok (rest, fleet', fired)) :
    (∀ p' ∈ rest, p'.OnKey k) ∧ ∀ t ∈ fired, t.OnKey k := by
  cases p with
  | ret a => cases h; simp
  | panic q => cases h
  | read nodes votes operator repair cmp mode next =>
    rw [advance_read, Except.map_eq_ok] at h
    obtain ⟨⟨o, f⟩, -, h⟩ := h
    cases h
    exact ⟨by simpa using hp.2.2 _, forall_fired_repair fun r _ hr _ => hp.2.1 r hr⟩
  | write nodes acks operator rollback mode next =>
    rw [advance_write, Except.map_eq_ok] at h
    obtain ⟨⟨o, f⟩, -, h⟩ := h
    cases h
    exact ⟨by simpa using hp.2.2 _, forall_fired_rollback fun _ _ => hp.2.1⟩

end Prog

section World

variable (svc : CoreService) (cluster : Cluster) {key : Key} {E : Backend → Option Entry}

theorem Request.exec_onKey (q : Request) : ∃ (α : Type) (p : Prog α), p.OnKey q.key ∧
    ∀ d fleet, q.exec svc cluster d fleet = (p.exec [d] fleet).map (·.2) := by
  cases q with
  | set r => exact ⟨_, _, set_onKey svc cluster r, fun _ _ => rfl⟩
  | delete r => exact ⟨_, _, delete_onKey svc cluster r, fun _ _ => rfl⟩
  | get r => exact ⟨_, _, get_onKey svc cluster r, fun _ _ => rfl⟩
  | «exists» r => exact ⟨_, _, exists_onKey svc cluster r, fun _ _ => rfl⟩
  | expire r => exact ⟨_, _, expire_onKey svc cluster r, fun _ _ => rfl⟩
  | getTTL r => exact ⟨_, _, getTTL_onKey svc cluster r, fun _ _ => rfl⟩

/-- A request on another key leaves the entries for `key` as they are, and fires hooks on its own
key. -/
theorem Request.exec_untouched {q : Request} (hk : q.key ≠ key) {d : Dispatch}
    {fleet fleet' : Fleet} {fired : List Task} (hU : Untouched key E fleet)
    (h : q.exec svc cluster d fleet = .ok (fleet', fired)) :
    Untouched key E fleet' ∧ ∀ t ∈ fired, t.OnKey q.key := by
  obtain ⟨α, p, hp, heq⟩ := Request.exec_onKey svc cluster q
  rw [heq] at h
  obtain ⟨⟨_, _, _⟩, hexec, h⟩ := Except.map_eq_ok.mp h
  cases h
  exact (hp.keeps hk E).exec hU hexec

variable (key E)

/-- The entries for `key` are those of `E`, and every hook running is on some other key. -/
def World.Isolated (w : World) : Prop :=
  Untouched key E w.fleet ∧ ∀ p ∈ w.pending, ∃ k, k ≠ key ∧ p.OnKey k

/-- A request on another key. -/
def Event.avoids : Event → Bool
  | .issue request _ => request.key != key
  | .advance _ _ => true

variable {key E}

theorem World.isolated_step {w w' : World} {e : Event} (he : e.avoids key)
    (hw : World.Isolated key E w) (h : World.step svc cluster w e = some w') :
    World.Isolated key E w' := by
  cases e with
  | issue q d =>
    have hk : q.key ≠ key := by simpa [Event.avoids] using he
    simp only [World.step] at h
    split at h
    · rename_i fleet fired hexec
      cases h
      obtain ⟨hU, hF⟩ := Request.exec_untouched svc cluster hk hw.1 hexec
      refine ⟨hU, fun p hp => ?_⟩
      rcases List.mem_append.mp hp with hp | hp
      · exact hw.2 p hp
      · obtain ⟨t, ht, rfl⟩ := List.mem_map.mp hp
        exact ⟨q.key, hk, Task.prog_onKey _ (hF t ht)⟩
    · cases h
  | advance j d =>
    simp only [World.step] at h
    split at h
    · cases h
    · rename_i p hp
      obtain ⟨k, hk, hon⟩ := hw.2 p (List.getElem?_mem hp)
      split at h
      · rename_i rest fleet fired hadv
        cases h
        obtain ⟨hU, -, -⟩ := (hon.keeps hk E).advance hw.1 hadv
        obtain ⟨hrest, hF⟩ := hon.advance hadv
        refine ⟨hU, fun q hq => ?_⟩
        rcases List.mem_append.mp hq with hq | hq
        · split at hq
          · rename_i p' hsome
            rcases List.mem_or_eq_of_mem_set hq with hq | rfl
            · exact hw.2 q hq
            · exact ⟨k, hk, hrest q (by simp [hsome])⟩
          · exact hw.2 q (List.mem_of_mem_eraseIdx hq)
        · obtain ⟨t, ht, rfl⟩ := List.mem_map.mp hq
          exact ⟨k, hk, Task.prog_onKey _ (hF t ht)⟩
      · cases h

end World

/-- Requests on other keys, issued one after another with their hooks interleaved in any order,
never change any backend's entry for `key`: every engine call they and their hooks make is on
their own key. -/
theorem other_keys_isolated (svc : CoreService) (cluster : Cluster) (key : Key) (fleet : Fleet)
    (events : List Event) (hevents : ∀ e ∈ events, e.avoids key) {w : World}
    (hrun : World.run svc cluster ⟨fleet, []⟩ events = some w) (b : Backend) :
    w.fleet b key = fleet b key :=
  (World.run_invariant (World.Isolated key fun b => fleet b key) (fun e => e.avoids key = true)
    (fun _ _ _ he hw h => World.isolated_step svc cluster he hw h) events _ w hevents
    ⟨fun _ => rfl, by simp⟩ hrun).1 b

/-- A Set of `"j"` that fails on `b`, leaving its rollback in flight; a Get of `"j"`; the
rollback's call; a Delete of `"j"`. -/
def trafficOnJ : List Event :=
  [.issue (.set ⟨"j", [5], 0, {}⟩) bFails, .issue (.get ⟨"j", {}⟩) .reliable,
    .advance 0 .reliable, .advance 0 .reliable, .issue (.delete ⟨"j", {}⟩) .reliable]

theorem traffic_on_j_leaves_k :
    ∃ w, World.run (CoreService.new []) pairCluster ⟨heldOnA, []⟩ trafficOnJ = some w ∧
      w.fleet replicaA "k" = heldOnA replicaA "k" :=
  ⟨_, rfl, other_keys_isolated (CoreService.new []) pairCluster "k" heldOnA trafficOnJ (by decide)
    rfl replicaA⟩

end KeyValueStore
