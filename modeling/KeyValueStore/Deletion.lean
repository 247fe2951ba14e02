import KeyValueStore.Durability

set_option autoImplicit false

/-!
# Durability of an acknowledged Delete

The dual of `KeyValueStore.Durability`, in the same world of requests issued one after another
and hooks running on their own. A Delete acknowledged under ALL has removed the key from every
backend of its view. A read of a key no backend holds answers `ErrNotFound` everywhere: it fires
a repair only when `ErrNotFound` wins, and every repair then deletes the key on its losers. An
Expire of an absent key changes nothing, to any TTL, and a Delete of any key keeps it absent. So,
with nothing in flight when the Delete returns and only reads and Deletes after it, the key never
comes back, and no Get returns data for it.

The four read requests share one lemma: whatever invariant of the fleet their engine read keeps,
with the repairs it fires, the whole request keeps.
-/

namespace KeyValueStore

/-- A read of `key`: Get, Exists, Expire (to any TTL) or GetTTL. -/
def Request.reads (key : Key) : Request → Bool
  | .get r => r.key == key
  | .«exists» r => r.key == key
  | .expire r => r.key == key
  | .getTTL r => r.key == key
  | .set _ => false
  | .delete _ => false

/-- Every engine read of `key` over a read view of the cluster, by any operator of the key and
with any comparer, keeps `P`, and the repair it fires satisfies `F`. -/
def ReadsKeep (cluster : Cluster) (key : Key) (P : Fleet → Prop) (F : Task → Prop) : Prop :=
  ∀ c rv, cluster.read key c = .ok rv → ∀ (operator : ReadOperator) (repair : RepairOperator)
    (cmp : ValueComparer), operator.key = key → ∀ fleet d o fleet', P fleet →
      QuorumEngine.read fleet d rv.backends rv.voteRequired operator cmp rv.votingMode =
        .ok (o, fleet') → P fleet' ∧ ∀ a, o.args = some a → F (.repair repair a)

section ReadRequests

variable (svc : CoreService) (cluster : Cluster) {key : Key} {P : Fleet → Prop} {F : Task → Prop}

variable (hread : ReadsKeep cluster key P F)
include hread

theorem get_keeps_of_read (r : GetRequest) (hkey : r.key = key) : (svc.get cluster r).Keeps P F := by
  subst hkey
  refine performRead_keeps svc cluster _ _ _ _ (fun res => ?_) fun view hv => hread _ view hv _ _ _ rfl
  cases res with
  | error e => trivial
  | ok raw => exact Prog.quiet_lift_bind _ fun _ => trivial

theorem exists_keeps_of_read (r : ExistsRequest) (hkey : r.key = key) :
    (CoreService.exists svc cluster r).Keeps P F := by
  subst hkey
  refine performRead_keeps svc cluster _ _ _ _ (fun res => ?_) fun view hv => hread _ view hv _ _ _ rfl
  rcases res with (_ | _) | raw
  all_goals first | trivial | exact Prog.quiet_lift_bind _ fun _ => trivial

theorem expire_keeps_of_read (r : ExpireRequest) (hkey : r.key = key) :
    (svc.expire cluster r).Keeps P F := by
  subst hkey
  refine performRead_keeps svc cluster _ _ _ _ (fun res => ?_) fun view hv => hread _ view hv _ _ _ rfl
  rcases res with (_ | _) | raw
  all_goals first | trivial | exact Prog.quiet_lift_bind _ fun _ => trivial

theorem getTTL_keeps_of_read (r : GetTTLRequest) (hkey : r.key = key) :
    (svc.getTTL cluster r).Keeps P F := by
  subst hkey
  refine performRead_keeps svc cluster _ _ _ _ (fun res => ?_) fun view hv => hread _ view hv _ _ _ rfl
  cases res with
  | error e => trivial
  | ok raw =>
    show Prog.Quiet (if raw = Value.nil then _ else _)
    split
    · trivial
    · exact Prog.quiet_lift_bind _ fun _ => trivial

theorem Request.exec_keeps_of_read {q : Request} (hq : q.reads key) {d : Dispatch}
    {fleet fleet' : Fleet} {fired : List Task} (hP : P fleet)
    (h : q.exec svc cluster d fleet = .ok (fleet', fired)) : P fleet' ∧ ∀ t ∈ fired, F t := by
  cases q <;> simp only [Request.reads, Bool.false_eq_true, beq_iff_eq] at hq <;>
    obtain ⟨⟨_, _, _⟩, hexec, h⟩ := Except.map_eq_ok.mp h <;> cases h
  · exact (get_keeps_of_read svc cluster hread _ hq).exec hP hexec
  · exact (exists_keeps_of_read svc cluster hread _ hq).exec hP hexec
  · exact (expire_keeps_of_read svc cluster hread _ hq).exec hP hexec
  · exact (getTTL_keeps_of_read svc cluster hread _ hq).exec hP hexec

end ReadRequests

section Absent

variable (key : Key) (nodes : List Backend)

/-- No backend of `nodes` holds the key. -/
def Absent (fleet : Fleet) : Prop :=
  ∀ b ∈ nodes, fleet b key = none

variable {key nodes}

theorem ReadOperator.run_absent (operator : ReadOperator) {s : Store} (hs : s key = none) :
    (operator.run s).2 key = none := by
  cases operator with
  | expire k e =>
    by_cases hk : k = key
    · subst hk
      simp [ReadOperator.run, Store.expire, hs]
    · cases h : s k <;> simp [ReadOperator.run, Store.expire, h, hs, Function.update_noteq (Ne.symm hk)]
  | _ => exact hs

theorem Store.delete_absent (k : Key) {s : Store} (hs : s key = none) : (s.delete k) key = none := by
  by_cases hk : key = k
  · subst hk; exact Store.delete_same s key
  · rw [Store.delete_ne s hk, hs]

theorem read_keeps_absent {fleet fleet' : Fleet} {d : Dispatch} {rn : List Backend} {votes : Nat}
    {operator : ReadOperator} {cmp : ValueComparer} {mode : VotingMode} {o : ReadOutcome}
    (hA : Absent key nodes fleet)
    (h : QuorumEngine.read fleet d rn votes operator cmp mode = .ok (o, fleet')) :
    Absent key nodes fleet' := by
  rw [QuorumEngine.read_eq, Except.map_eq_ok] at h
  obtain ⟨G, -, h⟩ := h
  simp only [Prod.mk.injEq] at h
  obtain ⟨-, rfl⟩ := h
  rw [QuorumEngine.dispatchRead_eq]
  intro b hb
  dsimp only
  split
  · exact ReadOperator.run_absent operator (hA b hb)
  · exact hA b hb

theorem write_delete_keeps_absent {fleet fleet' : Fleet} {d : Dispatch} {ns : List Backend}
    {acks : Nat} {k : Key} {o : WriteOutcome}
    (h : QuorumEngine.write fleet d ns acks (.delete k) .concurrent = .ok (o, fleet'))
    (hA : Absent key nodes fleet) : Absent key nodes fleet' := by
  rw [QuorumEngine.write_of_acts d (WriteOperator.acts_delete k) (Store.delete_delete · k),
    Except.ok.injEq, Prod.mk.injEq] at h
  obtain ⟨-, rfl⟩ := h
  intro b hb
  dsimp only
  split
  · exact Store.delete_absent k (hA b hb)
  · exact hA b hb

theorem answer_error_of_absent {operator : ReadOperator} {d : Dispatch} {fleet : Fleet}
    {b : Backend} (h : fleet b operator.key = none) :
    ∃ e, QuorumEngine.answer operator d fleet b = .error e := by
  unfold QuorumEngine.answer
  split
  · exact ⟨_, rfl⟩
  · rw [ReadOperator.run_answer, h]
    exact ⟨_, rfl⟩

theorem count_errors (cmp : ValueComparer) : ∀ (rs : List Reply) (G : List Group),
    (∀ r ∈ rs, ∃ e, r.2 = .error e) → ∃ G', QuorumEngine.count cmp G rs = .ok G'
  | [], G, _ => ⟨G, rfl⟩
  | (b, r) :: rs, G, h => by
    have tail := fun G' => count_errors cmp rs G' (fun r hr => h r (List.mem_cons_of_mem _ hr))
    obtain ⟨e, rfl⟩ := h (b, r) (List.mem_cons_self _ _)
    cases e
    case notFound => exact tail _
    all_goals exact tail G

theorem verdict_error {votes : Nat} {mode : VotingMode} {G : List Group}
    (hG : ∀ g ∈ G, g.value = none) : ∃ e, (QuorumEngine.verdict votes mode G).result = .error e := by
  unfold QuorumEngine.verdict
  split
  · rename_i i w hl
    split
    · rw [Group.result, hG w (List.getElem?_mem (QuorumEngine.leader_get mode G i w hl).1)]
      exact ⟨_, rfl⟩
    · exact ⟨_, rfl⟩
  · exact ⟨_, rfl⟩

theorem read_absent {fleet : Fleet} {d : Dispatch} {rn : List Backend} {votes : Nat}
    {operator : ReadOperator} {cmp : ValueComparer} {mode : VotingMode}
    (hA : Absent key nodes fleet) (hrn : ∀ b ∈ rn, b ∈ nodes) (hop : operator.key = key) :
    ∃ o, QuorumEngine.read fleet d rn votes operator cmp mode =
        .ok (o, (QuorumEngine.dispatchRead operator d rn fleet).2) ∧ (∃ e, o.result = .error e) ∧
      ∀ a, o.args = some a → a.err = some .notFound := by
  have hans : ∀ r ∈ QuorumEngine.arrive d (rn.map fun b => (b, QuorumEngine.answer operator d fleet b)),
      ∃ e, r.2 = .error e := by
    intro r hr
    obtain ⟨b, hb, rfl⟩ := QuorumEngine.mem_arrive_answers hr
    exact answer_error_of_absent (hop ▸ hA b (hrn b hb))
  obtain ⟨G, hG⟩ := count_errors cmp _ [] hans
  have hvals : ∀ g ∈ G, g.value = none := QuorumEngine.count_values_of cmp (· = none) hG (by simp)
    fun r hr => ⟨fun v hv => (by obtain ⟨e, he⟩ := hans r hr; rw [he] at hv; cases hv), fun _ => rfl⟩
  refine ⟨_, by rw [QuorumEngine.read_eq, hG]; rfl, verdict_error hvals, fun a ha => ?_⟩
  obtain ⟨i, w, hl, -, -, rfl⟩ := QuorumEngine.verdict_args ha
  simp [hvals w (List.getElem?_mem (QuorumEngine.leader_get mode G i w hl).1)]

theorem repair_of_notFound (repair : RepairOperator) {args : RepairArgs}
    (h : args.err = some .notFound) : ∃ k, repair.run args = deleteLosers k args.losers := by
  cases repair <;> exact ⟨_, by simp [RepairOperator.run, getRepair, existenceRepair, getTTLRepair, h]; rfl⟩

theorem deleteLosers_keeps_absent {F : Task → Prop} (k : Key) (losers : List Backend) :
    (deleteLosers k losers).Keeps (Absent key nodes) F := by
  intro fleet d o fleet' hA h
  refine ⟨write_delete_keeps_absent h hA, fun _ hr => ?_, trivial⟩
  rw [QuorumEngine.write_zero_rollback h] at hr
  cases hr

end Absent

/-- A read of `key`, or a Delete of any key. -/
def Request.readsOrDeletes (key : Key) : Request → Bool
  | .delete _ => true
  | q => q.reads key

def Event.readsOrDeletes (key : Key) : Event → Bool
  | .issue request _ => request.readsOrDeletes key
  | .advance _ _ => true

theorem World.kept_issue {svc : CoreService} {cluster : Cluster} {P : Fleet → Prop} {w w' : World}
    {q : Request} {d : Dispatch}
    (hq : ∀ fleet fleet' fired, P fleet → q.exec svc cluster d fleet = .ok (fleet', fired) →
      P fleet' ∧ ∀ t ∈ fired, t.prog.Keeps P (fun _ => False))
    (hw : World.Kept P w) (h : World.step svc cluster w (.issue q d) = some w') : World.Kept P w' := by
  simp only [World.step] at h
  split at h
  · rename_i fleet fired hexec
    cases h
    obtain ⟨hP, hF⟩ := hq _ _ _ hw.1 hexec
    refine ⟨hP, fun p hp => ?_⟩
    rcases List.mem_append.mp hp with hp | hp
    · exact hw.2 p hp
    · obtain ⟨t, ht, rfl⟩ := List.mem_map.mp hp
      exact hF t ht
  · cases h

section AfterDelete

variable (svc : CoreService) (cluster : Cluster) {key : Key} {nodes : List Backend}

/-- What a hook fired while no backend of `nodes` holds the key must do: keep it so, firing
nothing. -/
abbrev AbsentHook (key : Key) (nodes : List Backend) (t : Task) : Prop :=
  t.prog.Keeps (Absent key nodes) (fun _ => False)

theorem delete_keeps_absent (r : DeleteRequest) :
    (svc.delete cluster r).Keeps (Absent key nodes) (AbsentHook key nodes) := by
  unfold CoreService.delete CoreService.performWrite
  cases cluster.write r.key (svc.writeConsistency r.options) with
  | error e => trivial
  | ok view =>
    intro fleet d o fleet' hA h
    exact ⟨write_delete_keeps_absent h hA, fun _ _ => trivial, trivial⟩

theorem read_keeps_absent_of_view
    (hreads : ∀ c rv, cluster.read key c = .ok rv → ∀ b ∈ rv.backends, b ∈ nodes) :
    ReadsKeep cluster key (Absent key nodes) (AbsentHook key nodes) := by
  intro c rv hrv operator repair cmp hop fleet d o fleet' hA h
  refine ⟨read_keeps_absent hA h, fun a ha => ?_⟩
  obtain ⟨o', h', -, herr⟩ := @read_absent key nodes fleet d rv.backends rv.voteRequired operator cmp
    rv.votingMode hA (hreads c rv hrv) hop
  rw [h', Except.ok.injEq, Prod.mk.injEq] at h
  obtain ⟨k, hk⟩ := repair_of_notFound repair (herr a (h.1 ▸ ha))
  show (repair.run a).Keeps _ _
  rw [hk]
  exact deleteLosers_keeps_absent k a.losers

variable (hread : ReadsKeep cluster key (Absent key nodes) (AbsentHook key nodes))
include hread

theorem Request.exec_keeps_absent {q : Request} (hq : q.readsOrDeletes key) {d : Dispatch}
    {fleet fleet' : Fleet} {fired : List Task} (hA : Absent key nodes fleet)
    (h : q.exec svc cluster d fleet = .ok (fleet', fired)) :
    Absent key nodes fleet' ∧ ∀ t ∈ fired, AbsentHook key nodes t := by
  cases q with
  | delete r =>
    obtain ⟨⟨_, _, _⟩, hexec, h⟩ := Except.map_eq_ok.mp h
    cases h
    exact (delete_keeps_absent svc cluster r).exec hA hexec
  | _ =>
    refine Request.exec_keeps_of_read svc cluster hread ?_ hA h
    exact hq

theorem World.absent_step {w w' : World} {e : Event} (he : e.readsOrDeletes key)
    (hw : World.Kept (Absent key nodes) w) (h : World.step svc cluster w e = some w') :
    World.Kept (Absent key nodes) w' := by
  cases e with
  | advance j d => exact World.kept_advance hw h
  | issue q d =>
    exact World.kept_issue
      (fun _ _ _ hA hexec => Request.exec_keeps_absent svc cluster hread he hA hexec) hw h

end AfterDelete

theorem delete_acked_absent (svc : CoreService) (cluster : Cluster) (request : DeleteRequest)
    {view : WriteView}
    (hview : cluster.write request.key (svc.writeConsistency request.options) = .ok view)
    {d : Dispatch} {fleet fleet₁ : Fleet} {tasks : List Task}
    (hdel : (svc.delete cluster request).exec [d] fleet = .ok (.ok (), fleet₁, tasks)) :
    view.acknowledgeRequired ≤ (view.backends.filter fun b => !d.faulty b).length ∧
      Absent request.key (view.backends.filter fun b => !d.faulty b) fleet₁ ∧ tasks = [] := by
  rw [show (svc.delete cluster request).exec [d] fleet = _ from
      performWrite_exec svc cluster _ _ _ _ _ hview [d] fleet, List.headD_cons, if_neg (by decide),
    QuorumEngine.write_of_acts d (WriteOperator.acts_delete _) (Store.delete_delete · _)] at hdel
  by_cases hack : view.acknowledgeRequired ≤ (view.backends.filter fun b => !d.faulty b).length
  · simp only [hack, if_true, Functor.map, Except.map, Except.ok.injEq, Prod.mk.injEq] at hdel
    obtain ⟨-, rfl, rfl⟩ := hdel
    refine ⟨hack, fun b hb => ?_, rfl⟩
    obtain ⟨hm, hf⟩ := List.mem_filter.mp hb
    simp [hm, by simpa using hf]
  · simp [hack, Functor.map, Except.map, Except.mapError] at hdel

theorem delete_all_absent (svc : CoreService) (cluster : Cluster) (request : DeleteRequest)
    {view : WriteView}
    (hview : cluster.write request.key (svc.writeConsistency request.options) = .ok view)
    (hall : view.backends.length ≤ view.acknowledgeRequired) {d : Dispatch}
    {fleet fleet₁ : Fleet} {tasks : List Task}
    (hdel : (svc.delete cluster request).exec [d] fleet = .ok (.ok (), fleet₁, tasks)) :
    Absent request.key view.backends fleet₁ ∧ tasks = [] := by
  obtain ⟨hack, hA, rfl⟩ := delete_acked_absent svc cluster request hview hdel
  have hall' := List.filter_length_eq_length.mp
    (le_antisymm (List.length_filter_le _ _) (hall.trans hack))
  exact ⟨fun b hb => hA b (List.mem_filter.mpr ⟨hb, hall' b hb⟩), rfl⟩

theorem get_absent_error (svc : CoreService) (cluster : Cluster) (g : GetRequest)
    {nodes : List Backend} {fleet : Fleet} (hA : Absent g.key nodes fleet)
    (hreads : ∀ c rv, cluster.read g.key c = .ok rv → ∀ b ∈ rv.backends, b ∈ nodes)
    (ds : List Dispatch) :
    ∃ st fleet' fired, (svc.get cluster g).exec ds fleet = .ok (.error st, fleet', fired) := by
  unfold CoreService.get CoreService.performRead
  cases hrv : cluster.read g.key (svc.readConsistency g.options) with
  | error e => exact ⟨_, _, _, rfl⟩
  | ok rv =>
    obtain ⟨o, hread, ⟨e, he⟩, -⟩ := @read_absent g.key nodes fleet (ds.headD .reliable)
      rv.backends rv.voteRequired (.get g.key) byteComparer rv.votingMode hA (hreads _ rv hrv) rfl
    simp only [Engine.read, Prog.bind_eq, Prog.read_bind, Prog.ret_bind, Prog.exec_read, hread,
      Except.ok_bind, he]
    exact ⟨_, _, _, rfl⟩

theorem get_absent_notFound (svc : CoreService) (cluster : Cluster) (g : GetRequest)
    {nodes : List Backend} {fleet : Fleet} (hA : Absent g.key nodes fleet) {rv : ReadView}
    (hrv : cluster.read g.key (svc.readConsistency g.options) = .ok rv)
    (hrn : ∀ b ∈ rv.backends, b ∈ nodes) (hne : rv.backends ≠ [])
    (hvotes : rv.voteRequired ≤ rv.backends.length) (hmode : rv.votingMode = .voteOnNotFound)
    (ds : List Dispatch) (hd : ∀ b ∈ rv.backends, (ds.headD .reliable).faulty b = false) :
    ∃ fleet' fired, (svc.get cluster g).exec ds fleet =
      .ok (.error (convertErrorToGRPC .notFound), fleet', fired) := by
  have hans : ∀ b ∈ rv.backends,
      QuorumEngine.answer (.get g.key) (ds.headD .reliable) fleet b = .error .notFound := by
    intro b hb
    rw [QuorumEngine.answer_eq (hd b hb)]
    simp [ReadOperator.key, hA b (hrn b hb)]
  obtain ⟨o, a, hread, hres, -⟩ : ∃ o a, QuorumEngine.read fleet (ds.headD .reliable) rv.backends
      rv.voteRequired (.get g.key) byteComparer rv.votingMode = .ok (o, (QuorumEngine.dispatchRead
        (.get g.key) (ds.headD .reliable) rv.backends fleet).2) ∧ o.result = .error .notFound ∧
      o.args = some a ∧ a.losers = [] :=
    QuorumEngine.read_unanimous (.inr ⟨rfl, hmode⟩) hans hne hvotes
  unfold CoreService.get CoreService.performRead
  simp only [hrv, Engine.read, Prog.bind_eq, Prog.read_bind, Prog.ret_bind, Prog.exec_read, hread,
    Except.ok_bind, hres]
  exact ⟨_, _, rfl⟩

/-- A Delete acknowledged under ALL, with nothing else in flight when it returns: through any run
after it that issues only reads of the key and Deletes, their repairs interleaved with them in any
order, no backend of its view holds the key again; every Get of the key returns an error, and
`NotFound` when its view votes on it and every backend answers. -/
theorem acknowledged_delete_durable (svc : CoreService) (cluster : Cluster)
    (request : DeleteRequest) {view : WriteView}
    (hview : cluster.write request.key (svc.writeConsistency request.options) = .ok view)
    (hall : view.backends.length ≤ view.acknowledgeRequired)
    (hreads : ∀ c rv, cluster.read request.key c = .ok rv → ∀ b ∈ rv.backends, b ∈ view.backends)
    {d : Dispatch} {fleet fleet₁ : Fleet} {tasks : List Task}
    (hdel : (svc.delete cluster request).exec [d] fleet = .ok (.ok (), fleet₁, tasks))
    (events : List Event) (hevents : ∀ e ∈ events, e.readsOrDeletes request.key) {w : World}
    (hrun : World.run svc cluster ⟨fleet₁, tasks.map Task.prog⟩ events = some w) :
    (∀ b ∈ view.backends, w.fleet b request.key = none) ∧
      (∀ g : GetRequest, g.key = request.key → ∀ ds,
        ∃ st fleet' fired, (svc.get cluster g).exec ds w.fleet = .ok (.error st, fleet', fired)) ∧
      ∀ g : GetRequest, g.key = request.key → ∀ rv,
        cluster.read g.key (svc.readConsistency g.options) = .ok rv → rv.backends ≠ [] →
          rv.voteRequired ≤ rv.backends.length → rv.votingMode = .voteOnNotFound → ∀ ds,
            (∀ b ∈ rv.backends, (ds.headD .reliable).faulty b = false) →
              ∃ fleet' fired, (svc.get cluster g).exec ds w.fleet =
                .ok (.error (convertErrorToGRPC .notFound), fleet', fired) := by
  obtain ⟨hA, rfl⟩ := delete_all_absent svc cluster request hview hall hdel
  have hkept := World.run_invariant (World.Kept (Absent request.key view.backends))
    (fun e => e.readsOrDeletes request.key = true)
    (fun _ _ _ he hw h => World.absent_step svc cluster (read_keeps_absent_of_view cluster hreads)
      he hw h) events _ w hevents
    ⟨hA, by simp⟩ hrun
  refine ⟨hkept.1, fun g hg ds => ?_, fun g hg rv hrv hne hvotes hmode ds hd => ?_⟩
  · exact get_absent_error svc cluster g (hg ▸ hkept.1) (hg ▸ hreads) ds
  · exact get_absent_notFound svc cluster g (hg ▸ hkept.1) hrv (hreads _ rv (hg ▸ hrv)) hne hvotes
      hmode ds hd

/-- A Get of `"k"` while `b` fails, an Expire of `"k"` to zero, a Delete of another key, and the
hooks' calls. -/
def readsAfterDelete : List Event :=
  [.issue (.get ⟨"k", {}⟩) bFails, .issue (.expire ⟨"k", 0, {}⟩) .reliable,
    .issue (.delete ⟨"j", {}⟩) .reliable, .advance 0 .reliable, .advance 0 .reliable]

theorem delete_durable_on_pair :
    ∃ fleet₁ w, ((CoreService.new []).delete pairCluster ⟨"k", {}⟩).exec [.reliable] heldOnA =
        .ok (.ok (), fleet₁, []) ∧
      World.run (CoreService.new []) pairCluster ⟨fleet₁, []⟩ readsAfterDelete = some w ∧
      ((∀ b ∈ [replicaA, replicaB], w.fleet b "k" = none) ∧
        (∀ g : GetRequest, g.key = "k" → ∀ ds, ∃ st fleet' fired,
          ((CoreService.new []).get pairCluster g).exec ds w.fleet = .ok (.error st, fleet', fired)) ∧
        ∀ g : GetRequest, g.key = "k" → ∀ rv,
          pairCluster.read g.key ((CoreService.new []).readConsistency g.options) = .ok rv →
            rv.backends ≠ [] → rv.voteRequired ≤ rv.backends.length →
              rv.votingMode = .voteOnNotFound → ∀ ds,
                (∀ b ∈ rv.backends, (ds.headD .reliable).faulty b = false) →
                  ∃ fleet' fired, ((CoreService.new []).get pairCluster g).exec ds w.fleet =
                    .ok (.error (convertErrorToGRPC .notFound), fleet', fired)) :=
  ⟨_, _, rfl, rfl, @acknowledged_delete_durable (CoreService.new []) pairCluster ⟨"k", {}⟩ _ rfl
    (by decide) (fun _ rv h => by cases h; exact fun _ hb => hb) .reliable heldOnA _ [] rfl
    readsAfterDelete (by decide) _ rfl⟩

end KeyValueStore
