import KeyValueStore.QuorumIntersection
import KeyValueStore.Quiescence

set_option autoImplicit false

/-!
# With every backend answering, the replicated store is one store

The abstract model of the service is a single backend: one `Store`, to which a Set, a Delete and
an Expire are applied as the backend applies them, and from which a Get, an Exists and a GetTTL
answer. On a static cluster, where every view is the same backends, a request issued while none
of them fails reaches all of them: a write leaves every replica with what the single store would
hold, and a read finds them unanimous, answers what the single store answers, and fires a repair
with no losers. So through any run of such requests and of the hooks they fire, the replicas stay
equal to the single store run on the same requests, and every read answers from it.

The one request left out is a GetTTL of a key held without an expiration: on two replicas or
more the comparer dereferences the nil pointer (`getTTL_panics`). A hook that panics ends the
run, as the repair of a Get of such a key does (`valueRepair_panics`); the results here are about
the runs that reach a world.
-/

namespace KeyValueStore

/-- What a single backend holding `m` holds after the request. -/
def Request.apply : Request → Store → Store
  | .set r, m => m.set r.key r.data r.expiration
  | .delete r, m => m.delete r.key
  | .expire r, m => ((ReadOperator.expire r.key r.expiration).run m).2
  | .get _, m => m
  | .«exists» _, m => m
  | .getTTL _, m => m

def Event.apply : Event → Store → Store
  | .issue q _ => q.apply
  | .advance _ _ => id

/-- The single backend holding `m`, run on the requests of `events`. -/
def replay (events : List Event) (m : Store) : Store :=
  events.foldl (fun m e => e.apply m) m

/-- What a single backend holding `m` answers to a Get of the key. -/
def getFrom (m : Store) (key : Key) : Except Status GetResponse :=
  match m key with
  | some e => .ok ⟨e.data⟩
  | none => .error (convertErrorToGRPC .notFound)

/-- What a single backend holding `m` answers to a GetTTL of the key. -/
def getTTLFrom (m : Store) (key : Key) : Except Status GetTTLResponse :=
  match m key with
  | some e => .ok ⟨e.ttl⟩
  | none => .error (convertErrorToGRPC .notFound)

/-- A GetTTL of a key that `m` holds without an expiration. -/
def Request.unexpiringTTL (m : Store) : Request → Bool
  | .getTTL r => (m r.key).any fun e => e.ttl.isNone
  | _ => false

/-- A request issued with no backend of `nodes` failing, but a GetTTL of a key that the single
backend, holding `m`, holds without an expiration; or a hook's call. -/
def Event.failureFree (nodes : List Backend) (m : Store) : Event → Bool
  | .issue q d => !q.unexpiringTTL m && nodes.all fun b => !d.faulty b
  | .advance _ _ => true

/-- Every event is failure-free for the single backend run on the events before it. -/
def failureFreeFrom (nodes : List Backend) : Store → List Event → Bool
  | _, [] => true
  | m, e :: es => e.failureFree nodes m && failureFreeFrom nodes (e.apply m) es

/-- A static cluster of `nodes`: every view of every key is all of `nodes`; reads need no more
votes than there are nodes and vote on `ErrNotFound`, writes no more acknowledgements. -/
structure Static (cluster : Cluster) (nodes : List Backend) : Prop where
  nonempty : nodes ≠ []
  read : ∀ key c, ∃ votes, votes ≤ nodes.length ∧
    cluster.read key c = .ok ⟨nodes, votes, .voteOnNotFound⟩
  write : ∀ key c, ∃ acks, acks ≤ nodes.length ∧ cluster.write key c = .ok ⟨nodes, acks⟩

/-- Every backend of `nodes` holds the store `m`. -/
def Replicates (nodes : List Backend) (m : Store) (fleet : Fleet) : Prop :=
  ∀ b ∈ nodes, fleet b = m

/-- The replicas hold `m`, and every hook in flight leaves them alone. -/
structure Mirrors (nodes : List Backend) (m : Store) (w : World) : Prop where
  replicas : Replicates nodes m w.fleet
  hooks : ∀ p ∈ w.pending, p.Outside nodes

namespace Prog

variable {S : List Backend} {α : Type}

theorem Outside.advance {p : Prog α} (hp : p.Outside S) {d : Dispatch} {fleet fleet' : Fleet}
    {rest : Option (Prog α)} {fired : List Task}
    (h : p.advance d fleet = .ok (rest, fleet', fired)) :
    (∀ b ∈ S, fleet' b = fleet b) ∧ fired = [] ∧ ∀ p' ∈ rest, p'.Outside S := by
  cases p with
  | ret a => cases h; simp
  | panic q => cases h
  | read nodes votes operator repair cmp mode next =>
    obtain ⟨hpure, rfl, hnext⟩ := hp
    rw [advance_read, Except.map_eq_ok] at h
    obtain ⟨⟨o, f⟩, hread, h⟩ := h
    cases h
    exact ⟨fun b _ => by rw [QuorumEngine.read_fleet_of_pure hpure hread], rfl,
      by simpa using hnext _⟩
  | write nodes acks operator rollback mode next =>
    obtain ⟨hS, rfl, rfl, hnext⟩ := hp
    rw [advance_write, Except.map_eq_ok] at h
    obtain ⟨⟨o, f⟩, hwrite, h⟩ := h
    cases h
    exact ⟨fun b hb => QuorumEngine.write_frame hwrite fun hm => hS b hm hb,
      by rw [QuorumEngine.write_zero_rollback hwrite], by simpa using hnext _⟩

end Prog

section Requests

variable (svc : CoreService) (cluster : Cluster) {nodes : List Backend} (hstatic : Static cluster nodes)
  {m : Store} {fleet : Fleet} (hrep : Replicates nodes m fleet) {d : Dispatch}
  (hclean : ∀ b ∈ nodes, d.faulty b = false)

include hrep hclean in
theorem answer_of_replicates {operator : ReadOperator} {b : Backend} (hb : b ∈ nodes) :
    QuorumEngine.answer operator d fleet b = (operator.run m).1 := by
  simp [QuorumEngine.answer, hclean b hb, hrep b hb]

include hclean in
theorem filter_clean : (nodes.filter fun b => !d.faulty b) = nodes :=
  List.filter_eq_self.mpr fun b hb => by simp [hclean b hb]

include hstatic hrep hclean

theorem performWrite_replicated {key : Key} (options : WriteOptions) {operator : WriteOperator}
    {f : Store → Store} (hacts : operator.Acts f) (hf : ∀ s, f (f s) = f s)
    (rollback : RollbackOperator) :
    ∃ fleet', (do
        let err ← svc.performWrite cluster key options operator rollback .concurrent
        return err.mapError convertErrorToGRPC : Prog (Except Status Unit)).exec [d] fleet =
      .ok (.ok (), fleet', []) ∧ Replicates nodes (f m) fleet' := by
  obtain ⟨acks, hacks, hview⟩ := hstatic.write key (svc.writeConsistency options)
  rw [performWrite_exec svc cluster key options operator rollback .concurrent hview,
    List.headD_cons, if_neg (by decide), QuorumEngine.write_of_acts d hacts hf,
    filter_clean hclean]
  refine ⟨_, by simp only [if_pos hacks]; rfl, fun b hb => ?_⟩
  simp [hb, hclean b hb, hrep b hb]

theorem performRead_replicated {α : Type} {key : Key} (options : ReadOptions)
    (operator : ReadOperator) (repair : RepairOperator) (cmp : ValueComparer)
    (hrefl : ∀ e, m operator.key = some e → cmp (operator.held e) (operator.held e) = .ok true)
    {k : Except Error Value → Prog α} {res : α}
    (hk : ∀ ds fleet, (k (operator.run m).1).exec ds fleet = .ok (res, fleet, [])) :
    ∃ fleet' a, ((svc.performRead cluster key options operator repair cmp).bind k).exec [d] fleet =
        .ok (res, fleet', [.repair repair a]) ∧ a.losers = [] ∧
      Replicates nodes (operator.run m).2 fleet' := by
  obtain ⟨votes, hvotes, hview⟩ := hstatic.read key (svc.readConsistency options)
  have hx : (∃ v, (operator.run m).1 = .ok v ∧ cmp v v = .ok true) ∨
      ((operator.run m).1 = .error .notFound ∧ VotingMode.voteOnNotFound = .voteOnNotFound) := by
    rw [ReadOperator.run_answer]
    cases he : m operator.key with
    | none => exact .inr ⟨rfl, rfl⟩
    | some e => exact .inl ⟨_, rfl, hrefl e he⟩
  obtain ⟨o, a, hread, hres, hargs, hlosers⟩ := QuorumEngine.read_unanimous hx
    (fun b hb => answer_of_replicates hrep hclean hb) hstatic.nonempty hvotes
  unfold CoreService.performRead
  rw [hview]
  refine ⟨(QuorumEngine.dispatchRead operator d nodes fleet).2, a, ?_, hlosers, fun b hb => ?_⟩
  · simp only [Engine.read, Prog.read_bind, Prog.exec_read, List.headD_cons, hread,
      Except.ok_bind, Prog.ret_bind, hres, hk, hargs]
    rfl
  · rw [QuorumEngine.dispatchRead_eq]
    simp [hb, hclean b hb, hrep b hb]

theorem get_replicated (g : GetRequest) :
    ∃ fleet' a, (svc.get cluster g).exec [d] fleet =
        .ok (getFrom m g.key, fleet', [.repair (.get g.key) a]) ∧ a.losers = [] ∧
      Replicates nodes m fleet' := by
  simp only [CoreService.get, Prog.bind_eq]
  refine performRead_replicated svc cluster hstatic hrep hclean g.options (.get g.key)
    (.get g.key) byteComparer (fun _ _ => by simp [ReadOperator.held]) fun _ _ => ?_
  rw [ReadOperator.run_answer, show (ReadOperator.get g.key).key = g.key from rfl]
  unfold getFrom
  cases m g.key <;> rfl

theorem existence_replicated {β : Type} (mk : Bool → β) {key : Key} (options : ReadOptions)
    (operator : ReadOperator) (repair : RepairOperator) (hop : operator.key = key)
    (hheld : ∀ e, operator.held e = .bool true) :
    ∃ fleet' a, ((svc.performRead cluster key options operator repair booleanComparer).bind
        fun x => match x with
        | .error .notFound => pure (.ok (mk false))
        | .error err => pure (.error (convertErrorToGRPC err))
        | .ok rawResult => (Prog.lift rawResult.asBool).bind fun v => pure (.ok (mk v)) :
          Prog (Except Status β)).exec [d] fleet =
        .ok (.ok (mk (m key).isSome), fleet', [.repair repair a]) ∧ a.losers = [] ∧
      Replicates nodes (operator.run m).2 fleet' := by
  refine performRead_replicated svc cluster hstatic hrep hclean options operator repair _
    (fun e _ => by rw [hheld]; rfl) fun _ _ => ?_
  rw [ReadOperator.run_answer, hop]
  cases m key with
  | none => rfl
  | some e => simp only [hheld]; rfl

theorem getTTL_replicated (r : GetTTLRequest) (hexp : ∀ e, m r.key = some e → e.ttl.isSome) :
    ∃ fleet' a, (svc.getTTL cluster r).exec [d] fleet =
        .ok (getTTLFrom m r.key, fleet', [.repair (.getTTL r.key) a]) ∧ a.losers = [] ∧
      Replicates nodes m fleet' := by
  simp only [CoreService.getTTL, Prog.bind_eq]
  refine performRead_replicated svc cluster hstatic hrep hclean r.options (.ttl r.key)
    (.getTTL r.key) durationComparer (fun e he => ?_) fun _ _ => ?_
  · obtain ⟨t, ht⟩ := Option.isSome_iff_exists.mp (hexp e he)
    rw [ReadOperator.held, ht, durationComparer_refl]
  · rw [ReadOperator.run_answer, show (ReadOperator.ttl r.key).key = r.key from rfl]
    unfold getTTLFrom
    cases he : m r.key with
    | none => rfl
    | some e =>
      obtain ⟨t, ht⟩ := Option.isSome_iff_exists.mp (hexp e he)
      simp only [ReadOperator.held, ht]
      rfl

/-- Every request, no replica failing, but a GetTTL of a key held without an expiration: it
returns, the replicas hold what a single backend holds after it, and the hooks it fires leave
them alone. -/
theorem Request.exec_replicated {q : Request} (hq : q.unexpiringTTL m = false) :
    ∃ fleet' fired, q.exec svc cluster d fleet = .ok (fleet', fired) ∧
      Replicates nodes (q.apply m) fleet' ∧ ∀ t ∈ fired, t.prog.Outside nodes := by
  have hrepair : ∀ (repair : RepairOperator) (a : RepairArgs), a.losers = [] →
      ∀ t ∈ [Task.repair repair a], t.prog.Outside nodes := by
    intro repair a ha t ht
    rw [List.mem_singleton.mp ht]
    exact repair.run_outside (by simp [ha])
  cases q with
  | set r =>
    obtain ⟨fleet', h, hr⟩ := performWrite_replicated svc cluster hstatic hrep hclean r.options
      (WriteOperator.acts_set r.key r.data r.expiration) (fun s => Store.set_set s _ _ _)
      (.write (.delete r.key))
    exact ⟨fleet', [], by rw [Request.exec, show (svc.set cluster r).exec [d] fleet = _ from h]; rfl,
      hr, by simp⟩
  | delete r =>
    obtain ⟨fleet', h, hr⟩ := performWrite_replicated svc cluster hstatic hrep hclean r.options
      (WriteOperator.acts_delete r.key) (Store.delete_delete · _) .none
    exact ⟨fleet', [], by rw [Request.exec, show (svc.delete cluster r).exec [d] fleet = _ from h]; rfl,
      hr, by simp⟩
  | get r =>
    obtain ⟨fleet', a, h, ha, hr⟩ := get_replicated svc cluster hstatic hrep hclean r
    exact ⟨fleet', _, by rw [Request.exec, h]; rfl, hr, hrepair _ a ha⟩
  | «exists» r =>
    obtain ⟨fleet', a, h, ha, hr⟩ := existence_replicated svc cluster hstatic hrep hclean
      ExistsResponse.mk r.options (.exists r.key) (.exists r.key) rfl fun _ => rfl
    have h : (CoreService.exists svc cluster r).exec [d] fleet = _ := h
    exact ⟨fleet', _, by rw [Request.exec, h]; rfl, hr, hrepair _ a ha⟩
  | expire r =>
    obtain ⟨fleet', a, h, ha, hr⟩ := existence_replicated svc cluster hstatic hrep hclean
      ExpireResponse.mk ⟨r.options.consistency⟩ (.expire r.key r.expiration) (.expire r.key) rfl
      fun _ => rfl
    exact ⟨fleet', _, by rw [Request.exec, show (svc.expire cluster r).exec [d] fleet = _ from h]; rfl,
      hr, hrepair _ a ha⟩
  | getTTL r =>
    have hexp : ∀ e, m r.key = some e → e.ttl.isSome := fun e he => by
      simpa [Request.unexpiringTTL, he] using hq
    obtain ⟨fleet', a, h, ha, hr⟩ := getTTL_replicated svc cluster hstatic hrep hclean r hexp
    exact ⟨fleet', _, by rw [Request.exec, h]; rfl, hr, hrepair _ a ha⟩

end Requests

section Runs

variable (svc : CoreService) (cluster : Cluster) {nodes : List Backend} (hstatic : Static cluster nodes)
include hstatic

theorem World.mirrors_step {m : Store} {w w' : World} {e : Event} (he : e.failureFree nodes m)
    (hw : Mirrors nodes m w) (h : World.step svc cluster w e = some w') :
    Mirrors nodes (e.apply m) w' := by
  cases e with
  | issue q d =>
    simp only [Event.failureFree, Bool.and_eq_true, Bool.not_eq_true', List.all_eq_true] at he
    obtain ⟨fleet', fired, hexec, hr, hF⟩ := Request.exec_replicated svc cluster hstatic hw.replicas
      (fun b hb => by simpa using he.2 b hb) he.1
    simp only [World.step, hexec] at h
    cases h
    refine ⟨hr, fun p hp => ?_⟩
    rcases List.mem_append.mp hp with hp | hp
    · exact hw.hooks p hp
    · obtain ⟨t, ht, rfl⟩ := List.mem_map.mp hp
      exact hF t ht
  | advance j d =>
    obtain ⟨p, rest, fired, hp, hadv, hpending⟩ := World.step_advance h
    obtain ⟨hframe, rfl, hrest⟩ := (hw.hooks p (List.getElem?_mem hp)).advance hadv
    refine ⟨fun b hb => (hframe b hb).trans (hw.replicas b hb), fun q hq => ?_⟩
    rw [hpending, List.map_nil, List.append_nil] at hq
    cases rest with
    | none => exact hw.hooks q (List.mem_of_mem_eraseIdx hq)
    | some p' =>
      rcases List.mem_or_eq_of_mem_set hq with hq | rfl
      · exact hw.hooks q hq
      · exact hrest q rfl

theorem World.mirrors_run : ∀ (events : List Event) {m : Store} {w w' : World},
    failureFreeFrom nodes m events → Mirrors nodes m w →
      World.run svc cluster w events = some w' → Mirrors nodes (replay events m) w'
  | [], _, _, _, _, hw, h => by cases h; exact hw
  | e :: es, _, _, _, hev, hw, h => by
    obtain ⟨he, hes⟩ := Bool.and_eq_true_iff.mp hev
    obtain ⟨w₁, h₁, h⟩ := Option.bind_eq_some.mp h
    exact World.mirrors_run es hes (World.mirrors_step svc cluster hstatic he hw h₁) h

end Runs

/-- With every backend answering, a static cluster is one store: through any run of requests
issued while no backend fails (a GetTTL only of a key held with an expiration or not at all),
and of the hooks they fire in any order, every backend holds what a single backend would hold
after the same requests, and every Get, Exists and GetTTL issued so afterwards answers what that
single backend answers. -/
theorem failure_free_refines (svc : CoreService) (cluster : Cluster) {nodes : List Backend}
    (hstatic : Static cluster nodes) {m : Store} {fleet : Fleet}
    (hrep : Replicates nodes m fleet) (events : List Event)
    (hevents : failureFreeFrom nodes m events) {w : World}
    (hrun : World.run svc cluster ⟨fleet, []⟩ events = some w) :
    Replicates nodes (replay events m) w.fleet ∧
      ∀ d : Dispatch, (∀ b ∈ nodes, d.faulty b = false) →
        (∀ g : GetRequest, ∃ fleet' fired, (svc.get cluster g).exec [d] w.fleet =
          .ok (getFrom (replay events m) g.key, fleet', fired)) ∧
        (∀ r : ExistsRequest, ∃ fleet' fired, (CoreService.exists svc cluster r).exec [d] w.fleet =
          .ok (.ok ⟨(replay events m r.key).isSome⟩, fleet', fired)) ∧
        ∀ r : GetTTLRequest, (∀ e, replay events m r.key = some e → e.ttl.isSome) →
          ∃ fleet' fired, (svc.getTTL cluster r).exec [d] w.fleet =
            .ok (getTTLFrom (replay events m) r.key, fleet', fired) := by
  have hw := World.mirrors_run svc cluster hstatic events hevents ⟨hrep, by simp⟩ hrun
  refine ⟨hw.replicas, fun d hclean => ⟨fun g => ?_, fun r => ?_, fun r hexp => ?_⟩⟩
  · obtain ⟨fleet', a, h, -⟩ := get_replicated svc cluster hstatic hw.replicas hclean g
    exact ⟨fleet', _, h⟩
  · obtain ⟨fleet', a, h, -⟩ := existence_replicated svc cluster hstatic hw.replicas hclean
      ExistsResponse.mk r.options (.exists r.key) (.exists r.key) rfl fun _ => rfl
    exact ⟨fleet', _, h⟩
  · obtain ⟨fleet', a, h, -⟩ := getTTL_replicated svc cluster hstatic hw.replicas hclean r hexp
    exact ⟨fleet', _, h⟩

/-- On the trio, all empty: a Set, a GetTTL, an Expire, a Delete of another key, and the two
engine calls of the GetTTL's repair. -/
def failureFreeTraffic : List Event :=
  [.issue (.set ⟨"k", [2], 10000000000, {}⟩) .reliable, .issue (.getTTL ⟨"k", {}⟩) .reliable,
    .issue (.expire ⟨"k", 5000000000, {}⟩) .reliable, .issue (.delete ⟨"j", {}⟩) .reliable,
    .advance 0 .reliable, .advance 0 .reliable]

theorem failure_free_traffic_on_trio :
    ∃ w, World.run (CoreService.new []) trioCluster ⟨fun _ => Store.flushDB, []⟩
        failureFreeTraffic = some w ∧
      Replicates [replicaA, replicaB, replicaC] (replay failureFreeTraffic Store.flushDB) w.fleet ∧
      ∀ d : Dispatch, (∀ b ∈ [replicaA, replicaB, replicaC], d.faulty b = false) →
        (∀ g : GetRequest, ∃ fleet' fired,
          ((CoreService.new []).get trioCluster g).exec [d] w.fleet =
            .ok (getFrom (replay failureFreeTraffic Store.flushDB) g.key, fleet', fired)) ∧
        (∀ r : ExistsRequest, ∃ fleet' fired,
          (CoreService.exists (CoreService.new []) trioCluster r).exec [d] w.fleet =
            .ok (.ok ⟨(replay failureFreeTraffic Store.flushDB r.key).isSome⟩, fleet', fired)) ∧
        ∀ r : GetTTLRequest, (∀ e, replay failureFreeTraffic Store.flushDB r.key = some e →
            e.ttl.isSome) →
          ∃ fleet' fired, ((CoreService.new []).getTTL trioCluster r).exec [d] w.fleet =
            .ok (getTTLFrom (replay failureFreeTraffic Store.flushDB) r.key, fleet', fired) :=
  ⟨_, rfl, failure_free_refines (CoreService.new []) trioCluster
    ⟨by decide, fun _ _ => ⟨2, by decide, rfl⟩, fun _ _ => ⟨2, by decide, rfl⟩⟩
    (fun _ _ => rfl) failureFreeTraffic (by decide) rfl⟩

end KeyValueStore
