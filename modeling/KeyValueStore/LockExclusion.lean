import KeyValueStore.LockRace

set_option autoImplicit false

/-!
# At most one Lock succeeds, whatever fails

The lock race of `KeyValueStore.LockRace` with its faults: a dispatch may not reach its backend,
and the failed requests' Unlock rollbacks land at any point. Every request writes in address
order and stops at the first refusal, so a request that succeeds has locked the first backend of
its order. Without expiry, an entry is only ever removed by the rollback of the request that
wrote it, and a request with a rollback in flight has failed: a succeeded request keeps its
token on every backend it locked. When every view lists the same backends, two succeeded
requests would both hold the first of them, which distinct tokens rule out.
-/

namespace KeyValueStore

namespace LockRace

variable {key : Key} {lockers : List Locker}

section Secured

variable (key lockers)

/-- A dispatching request's acknowledged and pending backends make up its address order; a
succeeded request met its threshold on a prefix of that order and still holds its token there;
every rollback in flight belongs to a failed request. -/
structure Secured (s : LockState) : Prop where
  ordered : ∀ i l acked todo, lockers[i]? = some l → s.phase i = .dispatching acked todo →
    acked ++ todo = sortNodes l.view.backends
  succeeded : ∀ i acked, s.phase i = .returned acked true → ∃ l, lockers[i]? = some l ∧
    l.view.acknowledgeRequired ≤ acked.length ∧ acked <+: sortNodes l.view.backends ∧
      ∀ b ∈ acked, Tokened key lockers s i b
  failed : ∀ i b, (i, b) ∈ s.rollbacks → ∃ acked, s.phase i = .returned acked false

variable {key lockers}

theorem secured_init (fleet : Fleet) : Secured key lockers (init lockers fleet) where
  ordered i l acked todo hl h := by
    simp only [init, hl, Option.map_some', Option.getD_some, Phase.dispatching.injEq] at h
    rw [← h.1, ← h.2, List.nil_append]
  succeeded i acked h := by cases h
  failed i b h := by cases h

theorem secured_finish {s : LockState} {i : Nat} {l : Locker} {acked todo : List Backend}
    (ho : OwnTokens key lockers s) (hs : Secured key lockers s) (hl : lockers[i]? = some l)
    (hp : s.phase i = .dispatching acked todo) : Secured key lockers (finish s i l acked) where
  ordered j l' acked' todo' hl' h := hs.ordered j l' acked' todo' hl' (finish_phase_dispatching h).2
  succeeded j acked' h := by
    by_cases hji : j = i
    · subst hji
      rw [finish_phase_self, Phase.returned.injEq] at h
      obtain ⟨rfl, hok⟩ := h
      exact ⟨l, hl, of_decide_eq_true hok, ⟨todo, hs.ordered j l acked todo hl hp⟩,
        ho.acked j acked todo hp⟩
    · rw [finish_phase_ne s l acked hji] at h
      exact hs.succeeded j acked' h
  failed j b h := by
    have hold : (j, b) ∈ s.rollbacks → ∃ acked', (finish s i l acked).phase j = .returned acked' false := by
      intro h
      obtain ⟨acked', h'⟩ := hs.failed j b h
      have hji : j ≠ i := by rintro rfl; rw [hp] at h'; cases h'
      exact ⟨acked', by rw [finish_phase_ne s l acked hji, h']⟩
    by_cases hok : l.view.acknowledgeRequired ≤ acked.length
    · simp only [finish, hok, decide_True, if_true] at h
      exact hold h
    · simp [finish, hok] at h
      rcases h with h | ⟨-, rfl⟩
      · exact hold h
      · exact ⟨acked, by rw [finish_phase_self, decide_eq_false hok]⟩

theorem secured_lock {s : LockState} {i : Nat} {l : Locker} {acked rest : List Backend}
    {b : Backend} (hs : Secured key lockers s) (hl : lockers[i]? = some l)
    (hp : s.phase i = .dispatching acked (b :: rest)) (hfree : s.fleet b key = none) :
    Secured key lockers { s with
      fleet := Function.update s.fleet b ((s.fleet b).set key l.data l.expiration)
      phase := Function.update s.phase i (.dispatching (acked ++ [b]) rest) } where
  ordered j l' acked' todo' hl' h := by
    rcases update_phase_dispatching h with ⟨rfl, he⟩ | ⟨-, h⟩
    · cases he
      rw [hl] at hl'
      cases hl'
      rw [List.append_assoc, List.singleton_append]
      exact hs.ordered j l acked _ hl hp
    · exact hs.ordered j l' acked' todo' hl' h
  succeeded j acked' h := by
    have hji : j ≠ i := by rintro rfl; simp at h
    have h' : s.phase j = .returned acked' true := by
      rwa [← Function.update_noteq hji (Phase.dispatching (acked ++ [b]) rest) s.phase]
    obtain ⟨l', hl', henough, hprefix, htok⟩ := hs.succeeded j acked' h'
    exact ⟨l', hl', henough, hprefix,
      fun c hc => (htok c hc).of_fleet (Function.update_noteq ((htok c hc).ne_of_free hfree) _ _)⟩
  failed j c h := by
    obtain ⟨acked', h'⟩ := hs.failed j c h
    have hji : j ≠ i := by rintro rfl; rw [hp] at h'; cases h'
    exact ⟨acked', by simpa [Function.update_noteq hji] using h'⟩

theorem secured_unlock (htokens : (lockers.map Locker.data).Nodup) {s : LockState} {i : Nat}
    {b : Backend} (ho : OwnTokens key lockers s) (hs : Secured key lockers s)
    (hmem : (i, b) ∈ s.rollbacks) :
    Secured key lockers { s with
      fleet := Function.update s.fleet b ((s.fleet b).delete key)
      rollbacks := s.rollbacks.erase (i, b) } where
  ordered := hs.ordered
  succeeded j acked' h := by
    obtain ⟨l, hl, henough, hprefix, htok⟩ := hs.succeeded j acked' h
    refine ⟨l, hl, henough, hprefix, fun c hc => (htok c hc).of_fleet (Function.update_noteq ?_ _ _)⟩
    rintro rfl
    obtain ⟨acked'', hf⟩ := hs.failed i c hmem
    rw [Tokened.eq htokens (ho.pending i c hmem) (htok c hc)] at hf
    rw [h] at hf
    cases hf
  failed j c h := hs.failed j c (List.mem_of_mem_erase h)

theorem secured_step (htokens : (lockers.map Locker.data).Nodup) {s s' : LockState}
    {e : LockEvent} (hexp : ∀ b, e ≠ .expire b) (ho : OwnTokens key lockers s)
    (hs : Secured key lockers s) (h : step key lockers s e = some s') : Secured key lockers s' := by
  cases e with
  | dispatch i reachable =>
    obtain ⟨l, acked, todo, hl, hp, hcase⟩ := step_dispatch h
    rcases hcase with ⟨rfl, rfl⟩ | ⟨b, rest, rfl, -, hfree, rfl⟩ | ⟨b, rest, rfl, -, rfl⟩
    · exact secured_finish ho hs hl hp
    · exact secured_lock hs hl hp hfree
    · exact secured_finish ho hs hl hp
  | unlock i b =>
    obtain ⟨hmem, rfl⟩ := step_unlock h
    exact secured_unlock htokens ho hs hmem
  | expire b => exact absurd rfl (hexp b)

theorem secured_run (htokens : (lockers.map Locker.data).Nodup) (fleet : Fleet)
    (events : List LockEvent) (hexp : ∀ e ∈ events, ∀ b, e ≠ .expire b) {s : LockState}
    (hrun : run key lockers (init lockers fleet) events = some s) :
    OwnTokens key lockers s ∧ Secured key lockers s :=
  run_invariant (fun s => OwnTokens key lockers s ∧ Secured key lockers s)
    (fun e => ∀ b, e ≠ .expire b)
    (fun _ _ _ he hs h => ⟨ownTokens_step htokens he hs.1 h, secured_step htokens he hs.1 hs.2 h⟩)
    events _ s hexp ⟨ownTokens_init fleet, secured_init fleet⟩ hrun

end Secured

theorem exists_returned_of_succeeded :
    ∀ {p : Phase}, p.succeeded = true → ∃ acked, p = .returned acked true
  | .returned acked true, _ => ⟨acked, rfl⟩
  | .returned _ false, h => by cases h
  | .dispatching _ _, h => by cases h

theorem head_mem_of_prefix {acked order : List Backend} (hp : acked <+: order)
    (hne : acked ≠ []) :
    ∃ c, order.head? = some c ∧ c ∈ acked := by
  obtain ⟨t, rfl⟩ := hp
  obtain ⟨c, cs, rfl⟩ := List.exists_cons_of_ne_nil hne
  exact ⟨c, rfl, List.mem_cons_self _ _⟩

/-- Without expiry, a Lock request that succeeded keeps its token on every backend it locked,
through every interleaving of the other requests' dispatches, failing or not, and of the
rollbacks. -/
theorem succeeded_lock_kept (htokens : (lockers.map Locker.data).Nodup) (fleet : Fleet)
    (events : List LockEvent) (hexp : ∀ e ∈ events, ∀ b, e ≠ .expire b) {s : LockState}
    (hrun : run key lockers (init lockers fleet) events = some s) {i : Nat} {acked : List Backend}
    (h : s.phase i = .returned acked true) : ∀ b ∈ acked, Tokened key lockers s i b :=
  by obtain ⟨-, -, -, -, htok⟩ := (secured_run htokens fleet events hexp hrun).2.succeeded i acked h
     exact htok

/-- Two requests on the same two backends. -/
def pair : List Locker :=
  [⟨[1], 10, ⟨[replicaA, replicaB], 2⟩⟩, ⟨[2], 10, ⟨[replicaB, replicaA], 2⟩⟩]

/-- Request 0 locks `a`, cannot reach `b` and fails; its rollback releases `a`; request 1 then
locks both. -/
def handover : List LockEvent :=
  [.dispatch 0 true, .dispatch 0 false, .unlock 0 replicaA, .dispatch 1 true, .dispatch 1 true,
    .dispatch 1 true]

theorem handover_lock_kept :
    ∃ s, run "k" pair (init pair unlocked) handover = some s ∧
      s.phase 1 = .returned [replicaA, replicaB] true ∧
      ∀ b ∈ [replicaA, replicaB], Tokened "k" pair s 1 b :=
  ⟨_, rfl, rfl, @succeeded_lock_kept "k" pair (by decide) unlocked handover (by simp [handover])
    _ rfl 1 _ rfl⟩

/-- When every view lists the same backends and needs one acknowledgement at least, at most one
Lock request succeeds in any interleaving of dispatches, failing or not, and rollbacks, as long
as no lock entry expires. -/
theorem lock_race_at_most_one_winner (nodes : List Backend)
    (hviews : ∀ l ∈ lockers, l.view.backends.Perm nodes)
    (hacks : ∀ l ∈ lockers, 1 ≤ l.view.acknowledgeRequired)
    (htokens : (lockers.map Locker.data).Nodup) (fleet : Fleet) (events : List LockEvent)
    (hexp : ∀ e ∈ events, ∀ b, e ≠ .expire b) {s : LockState}
    (hrun : run key lockers (init lockers fleet) events = some s) {i j : Nat}
    (hi : (s.phase i).succeeded = true) (hj : (s.phase j).succeeded = true) : i = j := by
  have hs := (secured_run htokens fleet events hexp hrun).2
  have hhead : ∀ k, (s.phase k).succeeded = true →
      ∃ c, (sortNodes nodes).head? = some c ∧ Tokened key lockers s k c := by
    intro k hk
    obtain ⟨acked, hp⟩ := exists_returned_of_succeeded hk
    obtain ⟨l, hl, henough, hprefix, htok⟩ := hs.succeeded k acked hp
    have hl' := List.getElem?_mem hl
    have hne : acked ≠ [] := by
      rintro rfl
      have := hacks l hl'
      simp at henough
      omega
    rw [sortNodes_eq_of_perm (hviews l hl')] at hprefix
    obtain ⟨c, hc, hmem⟩ := head_mem_of_prefix hprefix hne
    exact ⟨c, hc, htok c hmem⟩
  obtain ⟨c, hc, hic⟩ := hhead i hi
  obtain ⟨c', hc', hjc⟩ := hhead j hj
  rw [hc, Option.some.injEq] at hc'
  subst hc'
  exact Tokened.eq htokens hic hjc

theorem handover_one_winner :
    ∃ s, run "k" pair (init pair unlocked) handover = some s ∧ (s.phase 0).succeeded = false ∧
      (s.phase 1).succeeded = true ∧
      ∀ i j, (s.phase i).succeeded = true → (s.phase j).succeeded = true → i = j :=
  ⟨_, rfl, rfl, rfl, fun _ _ hi hj => @lock_race_at_most_one_winner "k" pair [replicaA, replicaB]
    (by decide) (by decide) (by decide) unlocked handover (by simp [handover]) _ rfl _ _ hi hj⟩

end LockRace

end KeyValueStore
