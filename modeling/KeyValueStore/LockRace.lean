import KeyValueStore.Rollback

set_option autoImplicit false

/-!
# Concurrent Lock requests

`Lock` writes its token to the backends of its view in address order, each dispatch after the
previous one returned, and stops at the first backend that refuses. Lock requests run
concurrently: their dispatches interleave, and the Unlock rollbacks that the failed ones hand to
the engine land at any later point, as may the backends' expiry of lock entries. The system is a
step function over the fleet, each request's progress through its engine write, and the
rollbacks in flight.

When every view lists the same backends, the address order makes the first of them a gate: the
request that locks it first goes on to lock every other backend, and every other request fails
there having locked nothing, so exactly one succeeds. Without expiry a rollback only ever
releases an entry its own request wrote; once an entry can expire while its rollback is in
flight, the rollback may release a lock another request has taken since.
-/

namespace KeyValueStore

/-- A `Lock(key, data, expiration)` request and the write view the cluster gave it. -/
structure Locker where
  data : Bytes
  expiration : Duration
  view : WriteView
  deriving DecidableEq, Repr

/-- A Lock request's engine write: dispatching, with the backends that acknowledged and those
still to dispatch in order; or returned, with the backends that acknowledged and whether they
were enough. -/
inductive Phase where
  | dispatching (acked todo : List Backend)
  | returned (acked : List Backend) (ok : Bool)
  deriving DecidableEq, Repr

namespace Phase

def acked : Phase → List Backend
  | .dispatching acked _ => acked
  | .returned acked _ => acked

def succeeded : Phase → Bool
  | .returned _ ok => ok
  | .dispatching _ _ => false

def isReturned : Phase → Bool
  | .returned _ _ => true
  | .dispatching _ _ => false

end Phase

/-- The fleet, every request's write and the Unlock rollbacks in flight, each the request that
issued it and the backend it goes to. -/
structure LockState where
  fleet : Fleet
  phase : Nat → Phase
  rollbacks : List (Nat × Backend)

/-- One step of the system: a request's next dispatch returns (unless the backend is
unreachable); a rollback's Unlock lands; a backend expires a lock entry. -/
inductive LockEvent where
  | dispatch (i : Nat) (reachable : Bool)
  | unlock (i : Nat) (b : Backend)
  | expire (b : Backend)
  deriving DecidableEq, Repr

namespace LockRace

variable (key : Key) (lockers : List Locker)

def reach (reachable : Bool) : Dispatch := ⟨fun _ => !reachable, fun _ => 0⟩

/-- Every request starts its write on its view in address order, as `performWrite` orders a
sequential write. -/
def init (fleet : Fleet) : LockState where
  fleet := fleet
  phase i := .dispatching [] ((lockers[i]?.map fun l => sortNodes l.view.backends).getD [])
  rollbacks := []

/-- The engine's verdict when its loop ends: success with enough acknowledgements, and otherwise
`ErrConsistency`, with the acknowledged backends handed to the Unlock rollback. -/
def finish (s : LockState) (i : Nat) (l : Locker) (acked : List Backend) : LockState :=
  let ok := decide (l.view.acknowledgeRequired ≤ acked.length)
  { s with
    phase := Function.update s.phase i (.returned acked ok)
    rollbacks := if ok then s.rollbacks else s.rollbacks ++ acked.map (i, ·) }

def step (s : LockState) : LockEvent → Option LockState
  | .dispatch i reachable =>
    match lockers[i]?, s.phase i with
    | some l, .dispatching acked [] => some (finish s i l acked)
    | some l, .dispatching acked (b :: todo) =>
      match QuorumEngine.callWrite (.lock key l.data l.expiration) (reach reachable) b s.fleet with
      | .ok (true, fleet) =>
        some { s with fleet, phase := Function.update s.phase i (.dispatching (acked ++ [b]) todo) }
      | .ok (false, fleet) => some (finish { s with fleet } i l acked)
      | .error _ => none
    | _, _ => none
  | .unlock i b =>
    if (i, b) ∈ s.rollbacks then
      some { s with
        fleet := Function.update s.fleet b ((s.fleet b).delete key)
        rollbacks := s.rollbacks.erase (i, b) }
    else none
  | .expire b => some { s with fleet := Function.update s.fleet b ((s.fleet b).delete key) }

def run (s : LockState) : List LockEvent → Option LockState
  | [] => some s
  | e :: es => (step key lockers s e).bind (run · es)

variable {key lockers}

/-- Everything a dispatch can do: return the request once its backends are done, lock the next
backend if it is reachable and free, or return the request there. -/
theorem step_dispatch {s s' : LockState} {i : Nat} {reachable : Bool}
    (h : step key lockers s (.dispatch i reachable) = some s') :
    ∃ l acked todo, lockers[i]? = some l ∧ s.phase i = .dispatching acked todo ∧
      ((todo = [] ∧ s' = finish s i l acked) ∨
        (∃ b rest, todo = b :: rest ∧ reachable = true ∧ s.fleet b key = none ∧
          s' = { s with
            fleet := Function.update s.fleet b ((s.fleet b).set key l.data l.expiration)
            phase := Function.update s.phase i (.dispatching (acked ++ [b]) rest) }) ∨
        (∃ b rest, todo = b :: rest ∧ (reachable = false ∨ s.fleet b key ≠ none) ∧
          s' = finish s i l acked)) := by
  unfold step at h
  cases hl : lockers[i]? with
  | none => simp [hl] at h
  | some l =>
    cases hp : s.phase i with
    | returned acked ok => simp [hl, hp] at h
    | dispatching acked todo =>
      refine ⟨l, acked, todo, rfl, rfl, ?_⟩
      cases todo with
      | nil => simp only [hl, hp, Option.some.injEq] at h; exact .inl ⟨rfl, h.symm⟩
      | cons b rest =>
        simp only [hl, hp, QuorumEngine.callWrite_lock, reach, Bool.not_eq_false'] at h
        by_cases hok : reachable = true ∧ s.fleet b key = none
        · rw [if_pos (by simpa using hok)] at h
          cases h
          exact .inr (.inl ⟨b, rest, rfl, hok.1, hok.2, rfl⟩)
        · rw [if_neg (by simpa using hok)] at h
          cases h
          refine .inr (.inr ⟨b, rest, rfl, ?_, rfl⟩)
          cases reachable <;> simp_all

theorem step_unlock {s s' : LockState} {i : Nat} {b : Backend}
    (h : step key lockers s (.unlock i b) = some s') :
    (i, b) ∈ s.rollbacks ∧ s' = { s with
      fleet := Function.update s.fleet b ((s.fleet b).delete key)
      rollbacks := s.rollbacks.erase (i, b) } := by
  simp only [step] at h
  split at h
  · cases h; exact ⟨‹_›, rfl⟩
  · cases h

theorem finish_phase_self (s : LockState) (i : Nat) (l : Locker) (acked : List Backend) :
    (finish s i l acked).phase i =
      .returned acked (decide (l.view.acknowledgeRequired ≤ acked.length)) := by
  simp [finish]

theorem finish_phase_ne (s : LockState) {i j : Nat} (l : Locker) (acked : List Backend)
    (h : j ≠ i) : (finish s i l acked).phase j = s.phase j := by
  simp [finish, Function.update_noteq h]

theorem finish_phase_dispatching {s : LockState} {i j : Nat} {l : Locker}
    {acked acked' todo : List Backend} (h : (finish s i l acked).phase j = .dispatching acked' todo) :
    j ≠ i ∧ s.phase j = .dispatching acked' todo := by
  have hji : j ≠ i := by rintro rfl; rw [finish_phase_self] at h; cases h
  exact ⟨hji, by rwa [finish_phase_ne s l acked hji] at h⟩

/-- What holds of the start and is kept by every admissible step holds of every state a run of
admissible steps reaches. -/
theorem run_invariant (P : LockState → Prop) (admissible : LockEvent → Prop)
    (hstep : ∀ s e s', admissible e → P s → step key lockers s e = some s' → P s') :
    ∀ (events : List LockEvent) (s s' : LockState), (∀ e ∈ events, admissible e) → P s →
      run key lockers s events = some s' → P s'
  | [], s, s', _, hs, h => by cases h; exact hs
  | e :: es, s, s', hadm, hs, h => by
    simp only [run, Option.bind_eq_some] at h
    obtain ⟨s₁, h₁, h⟩ := h
    exact run_invariant P admissible hstep es s₁ s' (fun e he => hadm e (List.mem_cons_of_mem _ he))
      (hstep s e s₁ (hadm e (List.mem_cons_self _ _)) hs h₁) h

theorem finish_update_self (s : LockState) (i : Nat) (l : Locker) (acked : List Backend)
    (p : Phase) : finish { s with phase := Function.update s.phase i p } i l acked =
      finish s i l acked := by
  simp [finish]

theorem run_alone {i : Nat} {l : Locker} (hl : lockers[i]? = some l) :
    ∀ (todo acked : List Backend) (s : LockState), s.phase i = .dispatching acked todo →
      ∃ k acked' fleet',
        QuorumEngine.writeSequential (.lock key l.data l.expiration) .reliable todo s.fleet =
          .ok (acked', fleet') ∧
        run key lockers s (List.replicate k (.dispatch i true)) =
          some (finish { s with fleet := fleet' } i l (acked ++ acked'))
  | [], acked, s, hp => ⟨1, [], s.fleet, rfl, by simp [run, step, hl, hp]⟩
  | b :: rest, acked, s, hp => by
    by_cases hfree : s.fleet b key = none
    · -- `b` is locked, and the request goes on with the rest
      let fleet₁ := Function.update s.fleet b ((s.fleet b).set key l.data l.expiration)
      obtain ⟨k, acked', fleet', hw, hrun⟩ := run_alone hl rest (acked ++ [b])
        { s with fleet := fleet₁, phase := Function.update s.phase i (.dispatching (acked ++ [b]) rest) }
        (Function.update_same _ _ _)
      refine ⟨k + 1, b :: acked', fleet', ?_, ?_⟩
      · have hr : Dispatch.reliable.faulty b = false := rfl
        simp only [QuorumEngine.writeSequential, QuorumEngine.callWrite_lock, hr, hfree, and_self,
          if_true, bind, Except.bind]
        rw [show QuorumEngine.writeSequential _ _ rest fleet₁ = _ from hw]
        rfl
      · simp only [List.replicate_succ, run, step, hl, hp, QuorumEngine.callWrite_lock, reach,
          hfree, Bool.not_true, and_self, if_true, Option.some_bind]
        rw [hrun, List.append_assoc, List.singleton_append]
        exact congrArg some (finish_update_self { s with fleet := fleet' } i l _ _)
    · -- `b` is held: the request returns with what it had
      refine ⟨1, [], s.fleet, ?_, ?_⟩
      · simp [QuorumEngine.writeSequential, QuorumEngine.callWrite_lock, hfree]; rfl
      · simp [run, step, hl, hp, QuorumEngine.callWrite_lock, reach, hfree]

/-- A Lock request dispatched on its own from the start, every backend answering, is the
service's `Lock`: the same fleet after it, the same verdict, and the same backends handed to the
Unlock rollback. -/
theorem lock_alone (svc : CoreService) (cluster : Cluster) (request : LockRequest)
    {view : WriteView}
    (hview : cluster.write request.key (svc.writeConsistency request.options) = .ok view)
    {i : Nat} (hl : lockers[i]? = some ⟨request.data, request.expiration, view⟩) (fleet : Fleet) :
    ∃ k s, run request.key lockers (init lockers fleet) (List.replicate k (.dispatch i true)) =
        some s ∧
      (svc.lock cluster request).exec [] fleet =
        .ok (if (s.phase i).succeeded then .ok () else .error (convertErrorToGRPC .consistency),
          s.fleet, if s.rollbacks = [] then []
            else [.rollback (.write (.unlock request.key)) (s.rollbacks.map Prod.snd)]) := by
  obtain ⟨k, acked, fleet', hw, hrun⟩ :=
    run_alone hl (sortNodes view.backends) [] (init lockers fleet) (by simp [init, hl])
  refine ⟨k, _, hrun, ?_⟩
  rw [lock_exec svc cluster request hview]
  simp only [QuorumEngine.write, List.headD_nil, bind, Except.bind]
  rw [show QuorumEngine.writeSequential _ _ _ fleet = _ from hw]
  by_cases hok : view.acknowledgeRequired ≤ acked.length
  · simp [hok, finish, init, Phase.succeeded, pure, Except.pure, Functor.map, Except.map,
      Except.mapError]
  · by_cases hnil : acked = []
    · subst hnil
      have h0 : view.acknowledgeRequired ≠ 0 := by simpa using hok
      simp [h0, finish, init, Phase.succeeded, pure, Except.pure, Functor.map, Except.map,
        Except.mapError]
    · simp [hok, hnil, finish, init, Phase.succeeded, pure, Except.pure, Functor.map, Except.map,
        Except.mapError, Function.comp_def]

def unlocked : Fleet := fun _ _ => none

theorem lock_alone_on_pair :
    ∃ k s, run "k" [⟨[1], 10, ⟨[replicaA, replicaB], 2⟩⟩]
        (init [⟨[1], 10, ⟨[replicaA, replicaB], 2⟩⟩] unlocked)
        (List.replicate k (.dispatch 0 true)) = some s ∧
      ((CoreService.new []).lock pairCluster ⟨"k", [1], 10, {}⟩).exec [] unlocked =
        .ok (if (s.phase 0).succeeded then .ok () else .error (convertErrorToGRPC .consistency),
          s.fleet, if s.rollbacks = [] then []
            else [.rollback (.write (.unlock "k")) (s.rollbacks.map Prod.snd)]) :=
  @lock_alone [⟨[1], 10, ⟨[replicaA, replicaB], 2⟩⟩] (CoreService.new []) pairCluster
    ⟨"k", [1], 10, {}⟩ _ rfl 0 rfl unlocked

section OwnTokens

variable (key lockers)

/-- Backend `b` holds the key with request `i`'s token. -/
def Tokened (s : LockState) (i : Nat) (b : Backend) : Prop :=
  ∃ l e, lockers[i]? = some l ∧ s.fleet b key = some e ∧ e.data = l.data

/-- Every entry a request still counts as its own carries its token: the backends a dispatching
request has locked, and those a failed request's rollback has still to unlock. Each of them is
counted once, and a request that is still dispatching has no rollback in flight. -/
structure OwnTokens (s : LockState) : Prop where
  acked : ∀ i acked todo, s.phase i = .dispatching acked todo → ∀ b ∈ acked, Tokened key lockers s i b
  ackedNodup : ∀ i acked todo, s.phase i = .dispatching acked todo → acked.Nodup
  pending : ∀ i b, (i, b) ∈ s.rollbacks → Tokened key lockers s i b
  nodup : s.rollbacks.Nodup
  fresh : ∀ i acked todo b, s.phase i = .dispatching acked todo → (i, b) ∉ s.rollbacks

variable {key lockers}

theorem Tokened.of_fleet {s s' : LockState} {i : Nat} {c : Backend}
    (h : Tokened key lockers s i c) (hc : s'.fleet c = s.fleet c) : Tokened key lockers s' i c := by
  obtain ⟨l, e, hl, he, hd⟩ := h
  exact ⟨l, e, hl, by rw [hc, he], hd⟩

theorem Tokened.ne_of_free {s : LockState} {i : Nat} {b c : Backend}
    (h : Tokened key lockers s i c) (hb : s.fleet b key = none) : c ≠ b := by
  rintro rfl
  obtain ⟨l, e, -, he, -⟩ := h
  rw [hb] at he
  cases he

theorem Tokened.eq {s : LockState} {i j : Nat} {b : Backend}
    (htokens : (lockers.map Locker.data).Nodup) (hi : Tokened key lockers s i b)
    (hj : Tokened key lockers s j b) : i = j := by
  obtain ⟨l, e, hl, he, hd⟩ := hi
  obtain ⟨l', e', hl', he', hd'⟩ := hj
  rw [he] at he'
  cases he'
  have hlt : i < (lockers.map Locker.data).length := by
    simpa using (List.getElem?_eq_some_iff.mp hl).1
  exact List.getElem?_inj hlt htokens (by simp [hl, hl', ← hd, ← hd'])

theorem ownTokens_init (fleet : Fleet) : OwnTokens key lockers (init lockers fleet) where
  acked i acked todo h b hb := by cases h; cases hb
  ackedNodup i acked todo h := by cases h; exact List.nodup_nil
  pending i b h := by cases h
  nodup := List.nodup_nil
  fresh i acked todo b _ h := by cases h

theorem ownTokens_finish {s : LockState} {i : Nat} {l : Locker} {acked todo : List Backend}
    (hs : OwnTokens key lockers s) (hp : s.phase i = .dispatching acked todo) :
    OwnTokens key lockers (finish s i l acked) := by
  have hnew : ∀ j b, (j, b) ∈ acked.map (i, ·) → j = i ∧ b ∈ acked := by
    intro j b h
    obtain ⟨c, hc, he⟩ := List.mem_map.mp h
    cases he
    exact ⟨rfl, hc⟩
  constructor
  · intro j acked' todo' h
    exact hs.acked j acked' todo' (finish_phase_dispatching h).2
  · intro j acked' todo' h
    exact hs.ackedNodup j acked' todo' (finish_phase_dispatching h).2
  · intro j b h
    simp only [finish] at h
    split at h
    · exact hs.pending j b h
    · rcases List.mem_append.mp h with h | h
      · exact hs.pending j b h
      · obtain ⟨rfl, hb⟩ := hnew j b h
        exact hs.acked j acked todo hp b hb
  · simp only [finish]
    split
    · exact hs.nodup
    · refine List.Nodup.append hs.nodup ((hs.ackedNodup i acked todo hp).map ?_) ?_
      · intro b c h; simpa using h
      · intro p hp₁ hp₂
        obtain ⟨b, -, rfl⟩ := List.mem_map.mp hp₂
        exact hs.fresh i acked todo b hp hp₁
  · intro j acked' todo' b h hmem
    obtain ⟨hji, h⟩ := finish_phase_dispatching h
    simp only [finish] at hmem
    split at hmem
    · exact hs.fresh j acked' todo' b h hmem
    · rcases List.mem_append.mp hmem with hmem | hmem
      · exact hs.fresh j acked' todo' b h hmem
      · exact hji (hnew j b hmem).1

theorem update_phase_dispatching {f : Nat → Phase} {i j : Nat} {p : Phase}
    {acked todo : List Backend} (h : Function.update f i p j = .dispatching acked todo) :
    j = i ∧ p = .dispatching acked todo ∨ j ≠ i ∧ f j = .dispatching acked todo := by
  by_cases hji : j = i
  · subst hji; exact .inl ⟨rfl, by simpa using h⟩
  · exact .inr ⟨hji, by simpa [Function.update_noteq hji] using h⟩

theorem ownTokens_lock {s : LockState} {i : Nat} {l : Locker} {acked rest : List Backend}
    {b : Backend} (hs : OwnTokens key lockers s) (hl : lockers[i]? = some l)
    (hp : s.phase i = .dispatching acked (b :: rest)) (hfree : s.fleet b key = none) :
    OwnTokens key lockers { s with
      fleet := Function.update s.fleet b ((s.fleet b).set key l.data l.expiration)
      phase := Function.update s.phase i (.dispatching (acked ++ [b]) rest) } := by
  have hkeep : ∀ j c, Tokened key lockers s j c → c ≠ b := fun j c hc => hc.ne_of_free hfree
  have hstill : ∀ j c, Tokened key lockers s j c → Tokened key lockers { s with
      fleet := Function.update s.fleet b ((s.fleet b).set key l.data l.expiration) } j c :=
    fun j c hc => hc.of_fleet (Function.update_noteq (hkeep j c hc) _ _)
  constructor
  · intro j acked' todo' h c hc
    rcases update_phase_dispatching h with ⟨rfl, he⟩ | ⟨-, h⟩
    · cases he
      rcases List.mem_append.mp hc with hc | hc
      · exact hstill j c (hs.acked j acked _ hp c hc)
      · rw [List.mem_singleton.mp hc]
        exact ⟨l, ⟨l.data, expiry l.expiration⟩, hl, by simp, rfl⟩
    · exact hstill j c (hs.acked j acked' todo' h c hc)
  · intro j acked' todo' h
    rcases update_phase_dispatching h with ⟨rfl, he⟩ | ⟨-, h⟩
    · cases he
      refine (hs.ackedNodup j acked _ hp).append (List.nodup_singleton b) fun c hc hcb => ?_
      rw [List.mem_singleton.mp hcb] at hc
      exact hkeep j b (hs.acked j acked _ hp b hc) rfl
    · exact hs.ackedNodup j acked' todo' h
  · exact fun j c hc => hstill j c (hs.pending j c hc)
  · exact hs.nodup
  · intro j acked' todo' c h
    rcases update_phase_dispatching h with ⟨rfl, -⟩ | ⟨-, h⟩
    · exact hs.fresh j acked _ c hp
    · exact hs.fresh j acked' todo' c h

theorem ownTokens_unlock (htokens : (lockers.map Locker.data).Nodup) {s : LockState} {i : Nat}
    {b : Backend} (hs : OwnTokens key lockers s) (hmem : (i, b) ∈ s.rollbacks) :
    OwnTokens key lockers { s with
      fleet := Function.update s.fleet b ((s.fleet b).delete key)
      rollbacks := s.rollbacks.erase (i, b) } := by
  have hib := hs.pending i b hmem
  have hstill : ∀ j c, Tokened key lockers s j c → c ≠ b → Tokened key lockers { s with
      fleet := Function.update s.fleet b ((s.fleet b).delete key) } j c :=
    fun j c hc hcb => hc.of_fleet (Function.update_noteq hcb _ _)
  constructor
  · intro j acked' todo' h c hc
    have ht := hs.acked j acked' todo' h c hc
    refine hstill j c ht ?_
    rintro rfl
    exact hs.fresh j acked' todo' c h (Tokened.eq htokens hib ht ▸ hmem)
  · exact hs.ackedNodup
  · intro j c hc
    have ht := hs.pending j c (List.mem_of_mem_erase hc)
    refine hstill j c ht ?_
    rintro rfl
    rw [← Tokened.eq htokens hib ht, hs.nodup.mem_erase_iff] at hc
    exact hc.1 rfl
  · exact hs.nodup.erase _
  · intro j acked' todo' c h hc
    exact hs.fresh j acked' todo' c h (List.mem_of_mem_erase hc)

theorem ownTokens_step (htokens : (lockers.map Locker.data).Nodup) {s s' : LockState}
    {e : LockEvent} (hexp : ∀ b, e ≠ .expire b) (hs : OwnTokens key lockers s)
    (h : step key lockers s e = some s') : OwnTokens key lockers s' := by
  cases e with
  | dispatch i reachable =>
    obtain ⟨l, acked, todo, hl, hp, hcase⟩ := step_dispatch h
    rcases hcase with ⟨rfl, rfl⟩ | ⟨b, rest, rfl, -, hfree, rfl⟩ | ⟨b, rest, rfl, -, rfl⟩
    · exact ownTokens_finish hs hp
    · exact ownTokens_lock hs hl hp hfree
    · exact ownTokens_finish hs hp
  | unlock i b =>
    obtain ⟨hmem, rfl⟩ := step_unlock h
    exact ownTokens_unlock htokens hs hmem
  | expire b => exact absurd rfl (hexp b)

/-- Without expiry, the entry a rollback's Unlock removes carries its own request's token. -/
theorem unlock_removes_own_token (htokens : (lockers.map Locker.data).Nodup) (fleet : Fleet)
    (events : List LockEvent) (hexp : ∀ e ∈ events, ∀ b, e ≠ .expire b) {s s' : LockState}
    (hrun : run key lockers (init lockers fleet) events = some s) {i : Nat} {b : Backend}
    (hunlock : step key lockers s (.unlock i b) = some s') : Tokened key lockers s i b :=
  (run_invariant (OwnTokens key lockers) (fun e => ∀ b, e ≠ .expire b)
    (fun _ _ _ he hs h => ownTokens_step htokens he hs h) events _ s hexp (ownTokens_init fleet)
    hrun).pending i b (step_unlock hunlock).1

end OwnTokens

/-- Request 0 spans both replicas and needs both; requests 1 and 2 each take one. -/
def contenders : List Locker :=
  [⟨[1], 10, ⟨[replicaA, replicaB], 2⟩⟩, ⟨[2], 10, ⟨[replicaA], 1⟩⟩, ⟨[3], 10, ⟨[replicaB], 1⟩⟩]

/-- Request 2 takes `b`; request 0 takes `a`, fails at `b` and hands `a` to its rollback; `a`'s
entry expires and request 1 takes `a` before the rollback lands. -/
def raceWithExpiry : List LockEvent :=
  [.dispatch 2 true, .dispatch 2 true, .dispatch 0 true, .dispatch 0 true, .expire replicaA,
    .dispatch 1 true, .dispatch 1 true]

theorem tokened_contenders_iff {s : LockState} {i : Nat} {b : Backend} :
    Tokened "k" contenders s i b ↔
      ∃ l ∈ contenders[i]?, ((s.fleet b "k").map Entry.data) = some l.data := by
  simp [Tokened, Option.map_eq_some']

/-- Once `a`'s entry has expired, request 0's rollback releases request 1's lock. -/
theorem rollback_releases_foreign_lock :
    ∃ s s', run "k" contenders (init contenders unlocked) raceWithExpiry = some s ∧
      step "k" contenders s (.unlock 0 replicaA) = some s' ∧
      ¬ Tokened "k" contenders s 0 replicaA ∧ (s.phase 1).succeeded ∧
      (s.fleet replicaA "k").map Entry.data = some [2] ∧ s'.fleet replicaA "k" = none :=
  ⟨_, _, rfl, rfl, by rw [tokened_contenders_iff]; decide, rfl, rfl, rfl⟩

theorem rollback_releases_own_lock :
    ∃ s s', run "k" contenders (init contenders unlocked) (raceWithExpiry.take 4) = some s ∧
      step "k" contenders s (.unlock 0 replicaA) = some s' ∧ Tokened "k" contenders s 0 replicaA :=
  ⟨_, _, rfl, rfl, @unlock_removes_own_token "k" contenders (by decide) unlocked
    (raceWithExpiry.take 4) (by simp [raceWithExpiry]) _ _ rfl _ _ rfl⟩

def faultless : LockEvent → Bool
  | .dispatch _ reachable => reachable
  | .unlock _ _ => true
  | .expire _ => false

section OneOwner

variable (order : List Backend)

/-- How request `i`'s write stands in `order`, the address order of the shared view, given the
request that holds the first backend of it, if any. -/
def PhaseOk (owner : Option Nat) (i : Nat) : Phase → Prop
  | .dispatching acked todo => acked ++ todo = order ∧ (acked ≠ [] → owner = some i)
  | .returned acked true => acked = order ∧ owner = some i
  | .returned acked false => acked = [] ∧ owner ≠ none ∧ owner ≠ some i

variable (key lockers)

/-- At most one request, the owner, holds entries, exactly those it acknowledged; no rollback is
in flight. -/
structure OneOwner (s : LockState) (owner : Option Nat) : Prop where
  phase : ∀ i l, lockers[i]? = some l → PhaseOk order owner i (s.phase i)
  held : ∀ b ∈ order, (s.fleet b key).isSome ↔ ∃ o, owner = some o ∧ b ∈ (s.phase o).acked
  owned : ∀ o, owner = some o → o < lockers.length ∧ (s.phase o).acked ≠ []
  rollbacks : s.rollbacks = []

variable {key lockers order}

theorem PhaseOk.exists_append {owner : Option Nat} {i : Nat} :
    ∀ {p : Phase}, PhaseOk order owner i p → ∃ t, p.acked ++ t = order
  | .dispatching _ todo, h => ⟨todo, h.1⟩
  | .returned _ true, h => ⟨[], by rw [List.append_nil]; exact h.1⟩
  | .returned _ false, h => ⟨order, by rw [Phase.acked, h.1, List.nil_append]⟩

theorem PhaseOk.of_none {owner : Option Nat} {i : Nat} :
    ∀ {p : Phase}, PhaseOk order none i p → PhaseOk order owner i p
  | .dispatching _ _, h => ⟨h.1, fun hne => absurd (h.2 hne) (by simp)⟩
  | .returned _ true, h => absurd h.2 (by simp)
  | .returned _ false, h => absurd rfl h.2.1

theorem PhaseOk.succeeded_iff {owner : Option Nat} {i : Nat} :
    ∀ {p : Phase}, PhaseOk order owner i p → p.isReturned = true →
      owner ≠ none ∧ (p.succeeded = true ↔ owner = some i)
  | .returned _ true, h, _ => ⟨by simp [h.2], by simp [Phase.succeeded, h.2]⟩
  | .returned _ false, h, _ => ⟨h.2.1, by simp [Phase.succeeded, h.2.2]⟩
  | .dispatching _ _, _, h => absurd h (by simp [Phase.isReturned])

theorem OneOwner.head_held {s : LockState} {o : Nat} {b : Backend} {rest : List Backend}
    (hs : OneOwner key lockers order s (some o)) (horder : order = b :: rest) :
    (s.fleet b key).isSome := by
  obtain ⟨ho, hne⟩ := hs.owned o rfl
  obtain ⟨t, ht⟩ := (hs.phase o _ (List.getElem?_eq_getElem ho)).exists_append
  obtain ⟨c, cs, hc⟩ := List.exists_cons_of_ne_nil hne
  rw [hc, horder, List.cons_append, List.cons.injEq] at ht
  refine (hs.held b (horder ▸ List.mem_cons_self _ _)).mpr ⟨o, rfl, ?_⟩
  rw [hc, ← ht.1]
  exact List.mem_cons_self _ _

theorem oneOwner_init {fleet : Fleet} (hviews : ∀ l ∈ lockers, sortNodes l.view.backends = order)
    (hfree : ∀ b ∈ order, fleet b key = none) : OneOwner key lockers order (init lockers fleet) none where
  phase i l hl := by simp [init, hl, hviews l (List.getElem?_mem hl), PhaseOk]
  held b hb := by simp [init, hfree b hb]
  owned o ho := by cases ho
  rollbacks := rfl

theorem oneOwner_finish {s : LockState} {owner : Option Nat} {i : Nat} {l : Locker}
    {acked todo : List Backend} (hs : OneOwner key lockers order s owner)
    (hp : s.phase i = .dispatching acked todo)
    (hi : PhaseOk order owner i
      (.returned acked (decide (l.view.acknowledgeRequired ≤ acked.length)))) :
    OneOwner key lockers order (finish s i l acked) owner := by
  have hacked : ∀ o, ((finish s i l acked).phase o).acked = (s.phase o).acked := by
    intro o
    by_cases ho : o = i
    · subst ho; rw [finish_phase_self, hp]; rfl
    · rw [finish_phase_ne _ _ _ ho]
  constructor
  · intro j l' hl'
    by_cases hj : j = i
    · subst hj; rw [finish_phase_self]; exact hi
    · rw [finish_phase_ne _ _ _ hj]; exact hs.phase j l' hl'
  · intro b hb; simp only [hacked]; exact hs.held b hb
  · intro o ho; rw [hacked]; exact hs.owned o ho
  · by_cases hok : l.view.acknowledgeRequired ≤ acked.length
    · simp [finish, hok, hs.rollbacks]
    · simp only [hok, decide_False] at hi
      simp [finish, hok, hs.rollbacks, hi.1]

theorem oneOwner_lock {s : LockState} {owner : Option Nat} {i : Nat} {l : Locker}
    {acked rest : List Backend} {b : Backend} (hs : OneOwner key lockers order s owner)
    (hl : lockers[i]? = some l) (hp : s.phase i = .dispatching acked (b :: rest))
    (hi : acked ++ b :: rest = order ∧ (acked ≠ [] → owner = some i))
    (hfree : s.fleet b key = none) :
    OneOwner key lockers order { s with
      fleet := Function.update s.fleet b ((s.fleet b).set key l.data l.expiration)
      phase := Function.update s.phase i (.dispatching (acked ++ [b]) rest) } (some i) := by
  have howner : owner = none ∨ owner = some i := by
    by_cases hne : acked = []
    · subst hne
      cases owner with
      | none => exact .inl rfl
      | some o => exact absurd (hs.head_held hi.1.symm) (by simp [hfree])
    · exact .inr (hi.2 hne)
  -- what the invariant said was held is what the request had acknowledged
  have hown : ∀ c, (∃ o, owner = some o ∧ c ∈ (s.phase o).acked) ↔ c ∈ acked := by
    rcases howner with rfl | rfl
    · have : acked = [] := by by_contra hne; cases hi.2 hne
      simp [this]
    · simp [hp, Phase.acked]
  constructor
  · intro j l' hl'
    by_cases hj : j = i
    · subst hj
      dsimp only
      rw [Function.update_same]
      exact ⟨by simpa using hi.1, fun _ => rfl⟩
    · dsimp only
      rw [Function.update_noteq hj]
      rcases howner with rfl | rfl
      · exact (hs.phase j l' hl').of_none
      · exact hs.phase j l' hl'
  · intro c hc
    by_cases hcb : c = b
    · subst hcb; simp [Phase.acked]
    · simp only [Function.update_noteq hcb, hs.held c hc, hown]
      simp [Phase.acked, hcb]
  · intro o ho
    cases ho
    exact ⟨(List.getElem?_eq_some_iff.mp hl).1, by simp [Phase.acked]⟩
  · exact hs.rollbacks

theorem oneOwner_step (hnodup : order.Nodup)
    (hacks : ∀ l ∈ lockers,
      1 ≤ l.view.acknowledgeRequired ∧ l.view.acknowledgeRequired ≤ order.length)
    {s s' : LockState} {e : LockEvent} {owner : Option Nat} (he : faultless e = true)
    (hs : OneOwner key lockers order s owner) (h : step key lockers s e = some s') :
    ∃ owner', OneOwner key lockers order s' owner' := by
  cases e with
  | dispatch i reachable =>
    obtain ⟨l, acked, todo, hl, hp, hcase⟩ := step_dispatch h
    have hack := hacks l (List.getElem?_mem hl)
    have hi := hs.phase i l hl
    rw [hp] at hi
    rcases hcase with ⟨rfl, rfl⟩ | ⟨b, rest, rfl, -, hfree, rfl⟩ | ⟨b, rest, rfl, hheld, rfl⟩
    · -- every backend acknowledged: the request is the owner, and it succeeds
      obtain ⟨hacked, hown⟩ := hi
      rw [List.append_nil] at hacked
      subst hacked
      have hne : acked ≠ [] := by rintro rfl; simp at hack; omega
      refine ⟨owner, oneOwner_finish hs hp ?_⟩
      rw [decide_eq_true hack.2]
      exact ⟨rfl, hown hne⟩
    · exact ⟨some i, oneOwner_lock hs hl hp hi hfree⟩
    · -- the next backend is held by the owner, another request, so this one holds nothing
      have hb : (s.fleet b key).isSome :=
        Option.ne_none_iff_isSome.mp (by simpa [show reachable = true from he] using hheld)
      obtain ⟨o, ho, hbo⟩ := (hs.held b (hi.1 ▸ by simp)).mp hb
      have hoi : o ≠ i := by
        rintro rfl
        rw [hp] at hbo
        exact List.disjoint_of_nodup_append (hi.1 ▸ hnodup) hbo (List.mem_cons_self _ _)
      have hacked : acked = [] := by
        by_contra hne
        exact hoi (Option.some.inj (ho.symm.trans (hi.2 hne)))
      subst hacked
      refine ⟨owner, oneOwner_finish hs hp ?_⟩
      rw [List.length_nil, decide_eq_false (by omega)]
      exact ⟨rfl, by simp [ho], by simp [ho, hoi]⟩
  | unlock i b =>
    have := (step_unlock h).1
    simp [hs.rollbacks] at this
  | expire b => cases he

end OneOwner

/-- Whatever the order of the views and the interleaving of the requests' dispatches, once every
request has returned exactly one of them has succeeded. -/
theorem lock_race_one_winner (nodes : List Backend) (haddr : (nodes.map Backend.address).Nodup)
    (hviews : ∀ l ∈ lockers, l.view.backends.Perm nodes)
    (hacks : ∀ l ∈ lockers,
      1 ≤ l.view.acknowledgeRequired ∧ l.view.acknowledgeRequired ≤ nodes.length)
    (hne : lockers ≠ []) (fleet : Fleet) (hfree : ∀ b ∈ nodes, fleet b key = none)
    (events : List LockEvent) (hevents : ∀ e ∈ events, faultless e = true) {s : LockState}
    (hrun : run key lockers (init lockers fleet) events = some s)
    (hdone : ∀ i < lockers.length, (s.phase i).isReturned = true) :
    ∃! i, i < lockers.length ∧ (s.phase i).succeeded = true := by
  have hperm := sortNodes_perm nodes
  have hacks' : ∀ l ∈ lockers, 1 ≤ l.view.acknowledgeRequired ∧
      l.view.acknowledgeRequired ≤ (sortNodes nodes).length := by
    rw [hperm.length_eq]; exact hacks
  obtain ⟨owner, hs⟩ := run_invariant (fun s => ∃ owner, OneOwner key lockers (sortNodes nodes) s owner)
    (fun e => faultless e = true)
    (fun _ _ _ he ⟨_, hs⟩ h => oneOwner_step (hperm.nodup_iff.mpr (haddr.of_map _)) hacks' he hs h)
    events _ s hevents
    ⟨none, oneOwner_init (fun l hl => sortNodes_eq_of_perm (hviews l hl))
      (fun b hb => hfree b (hperm.subset hb))⟩ hrun
  have hphase : ∀ i < lockers.length, owner ≠ none ∧ ((s.phase i).succeeded = true ↔ owner = some i) :=
    fun i hi => (hs.phase i _ (List.getElem?_eq_getElem hi)).succeeded_iff (hdone i hi)
  cases owner with
  | none => exact absurd rfl (hphase 0 (List.length_pos.mpr hne)).1
  | some o =>
    have ho := (hs.owned o rfl).1
    exact ⟨o, ⟨ho, (hphase o ho).2.mpr rfl⟩,
      fun j ⟨hj, hsj⟩ => (Option.some.inj ((hphase j hj).2.mp hsj)).symm⟩

/-- Two requests on the same two backends, listed in either order. -/
def rivals : List Locker :=
  [⟨[1], 10, ⟨[replicaB, replicaA], 2⟩⟩, ⟨[2], 10, ⟨[replicaA, replicaB], 1⟩⟩]

/-- Request 1 locks `a`; request 0 finds `a` held and returns; request 1 locks `b` and returns. -/
def rivalry : List LockEvent :=
  [.dispatch 1 true, .dispatch 0 true, .dispatch 1 true, .dispatch 1 true]

theorem lock_race_rivals_one_winner :
    ∃ s, run "k" rivals (init rivals unlocked) rivalry = some s ∧
      ∃! i, i < rivals.length ∧ (s.phase i).succeeded = true :=
  ⟨_, rfl, @lock_race_one_winner "k" rivals [replicaA, replicaB] (by decide) (by decide) (by decide)
    (by decide) unlocked (by decide) rivalry (by decide) _ rfl (by decide)⟩

end LockRace

end KeyValueStore
