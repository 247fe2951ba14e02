import KeyValueStore.Durability

set_option autoImplicit false

/-!
# The hooks in flight come to an end

A read fires its repair and a failed write its rollback, and the engine does not wait for them:
each runs on its own, one engine call at a time (`Event.advance`). Every repair and rollback of
the service makes at most three engine calls, whatever they answer, and none of its calls fires a
hook: the reads inside a repair have no repair of their own, and its writes need no
acknowledgement, so they never fail and never roll back. So each hook in flight takes at most
four steps of the world (three calls and its return) and adds no hook: no run of hook calls from
a world is longer than four times its hooks, and calling the first hook again and again empties
the world of hooks, unless a call panics.
-/

namespace KeyValueStore

namespace Prog

variable {α : Type}

/-- The program makes at most `n` engine calls, whatever they answer, and none of them fires a
hook: its reads have no repair, and its writes are concurrent and need no acknowledgement. -/
def Settles : Prog α → Nat → Prop
  | .ret _, _ => True
  | .panic _, _ => True
  | .read _ _ _ repair _ _ next, n + 1 => repair = none ∧ ∀ r, (next r).Settles n
  | .write _ acks _ _ mode next, n + 1 => acks = 0 ∧ mode = .concurrent ∧ ∀ r, (next r).Settles n
  | .read .., 0 => False
  | .write .., 0 => False

theorem Settles.advance {p : Prog α} {n : Nat} (hp : p.Settles n) {d : Dispatch}
    {fleet fleet' : Fleet} {rest : Option (Prog α)} {fired : List Task}
    (h : p.advance d fleet = .ok (rest, fleet', fired)) :
    fired = [] ∧ ∀ p' ∈ rest, ∃ k, n = k + 1 ∧ p'.Settles k := by
  cases p with
  | ret a => cases h; simp
  | panic q => cases h
  | read nodes votes operator repair cmp mode next =>
    obtain _ | k := n
    · exact hp.elim
    obtain ⟨hrepair, hnext⟩ := hp
    rw [advance_read, Except.map_eq_ok] at h
    obtain ⟨⟨o, f⟩, -, h⟩ := h
    cases h
    exact ⟨by rw [hrepair], by simpa using hnext _⟩
  | write nodes acks operator rollback mode next =>
    obtain _ | k := n
    · exact hp.elim
    obtain ⟨rfl, rfl, hnext⟩ := hp
    rw [advance_write, Except.map_eq_ok] at h
    obtain ⟨⟨o, f⟩, hwrite, h⟩ := h
    cases h
    exact ⟨by rw [QuorumEngine.write_zero_rollback hwrite], by simpa using hnext _⟩

theorem settles_lift_bind {β : Type} (e : Except Panic α) {f : α → Prog β} {n : Nat}
    (hf : ∀ a, (f a).Settles n) : ((Prog.lift e).bind f).Settles n := by
  cases e with
  | error p => trivial
  | ok a => exact hf a

end Prog

section Hooks

variable (key : Key) (losers : List Backend) (n : Nat)

theorem deleteLosers_settles : (deleteLosers key losers).Settles (n + 1) :=
  ⟨rfl, rfl, fun _ => trivial⟩

theorem setLosers_settles (value : Value) (ttl : Duration) :
    (setLosers key losers value ttl).Settles (n + 1) :=
  ⟨rfl, rfl, fun _ => trivial⟩

theorem setLosersFromWinners_settles (args : RepairArgs) (ttl : Duration) :
    (setLosersFromWinners key args ttl).Settles (n + 2) := by
  refine ⟨rfl, fun r => ?_⟩
  cases r with
  | error e => trivial
  | ok v => exact setLosers_settles key args.losers n v ttl

end Hooks

theorem RepairOperator.run_settles (repair : RepairOperator) (args : RepairArgs) :
    (repair.run args).Settles 3 := by
  cases repair with
  | get key =>
    show (getRepair key args).Settles 3
    unfold getRepair
    split
    · exact deleteLosers_settles key args.losers 2
    · refine ⟨rfl, fun r => ?_⟩
      cases r with
      | error e => trivial
      | ok ttl =>
        show Prog.Settles (if ttl = Value.nil then _ else _) 2
        split
        · exact setLosers_settles key args.losers 1 args.value 0
        · exact Prog.settles_lift_bind _ fun t => by
            split
            · exact setLosers_settles key args.losers 1 args.value t
            · trivial
  | getTTL key =>
    show (getTTLRepair key args).Settles 3
    unfold getTTLRepair
    split
    · exact deleteLosers_settles key args.losers 2
    · split
      · exact setLosersFromWinners_settles key 1 args 0
      · exact Prog.settles_lift_bind _ fun t => by
          split
          · exact deleteLosers_settles key args.losers 2
          · exact setLosersFromWinners_settles key 1 args t
  | _ key =>
    show (existenceRepair key args).Settles 3
    unfold existenceRepair
    split
    · exact deleteLosers_settles key args.losers 2
    · refine ⟨rfl, fun r => ?_⟩
      cases r with
      | error e => trivial
      | ok ttl =>
        show Prog.Settles (if args.value = Value.nil then _ else _) 2
        split
        · exact setLosersFromWinners_settles key 0 args 0
        · exact Prog.settles_lift_bind _ fun t => by
            split
            · exact deleteLosers_settles key args.losers 1
            · exact setLosersFromWinners_settles key 0 args t

theorem Task.prog_settles : ∀ t : Task, t.prog.Settles 3
  | .repair operator args => operator.run_settles args
  | .rollback .none _ => trivial
  | .rollback (.write _) _ => ⟨rfl, rfl, fun _ => trivial⟩

/-- The steps a world with hooks bounded by `bounds` may still take: each hook's calls, and its
return. -/
def hookSteps : List Nat → Nat
  | [] => 0
  | n :: bounds => n + 1 + hookSteps bounds

namespace List

variable {α β : Type} {R : α → β → Prop}

theorem forall₂_getElem? : ∀ {l₁ : List α} {l₂ : List β} {j : Nat} {a : α},
    List.Forall₂ R l₁ l₂ → l₁[j]? = some a → ∃ b, l₂[j]? = some b ∧ R a b
  | [], [], _, _, .nil, h => by simp at h
  | _ :: _, _ :: _, 0, _, .cons hab _, h => by
    rw [List.getElem?_cons_zero, Option.some.injEq] at h
    rw [List.getElem?_cons_zero]
    exact ⟨_, rfl, h ▸ hab⟩
  | _ :: _, _ :: _, _ + 1, _, .cons _ hl, h => by
    rw [List.getElem?_cons_succ] at h ⊢
    exact forall₂_getElem? hl h

theorem forall₂_set : ∀ {l₁ : List α} {l₂ : List β} {j : Nat} {a : α} {b : β},
    List.Forall₂ R l₁ l₂ → R a b → List.Forall₂ R (l₁.set j a) (l₂.set j b)
  | [], [], _, _, _, .nil, _ => .nil
  | _ :: _, _ :: _, 0, _, _, .cons _ hl, hab => .cons hab hl
  | _ :: _, _ :: _, _ + 1, _, _, .cons h hl, hab => .cons h (forall₂_set hl hab)

theorem forall₂_eraseIdx : ∀ {l₁ : List α} {l₂ : List β} {j : Nat},
    List.Forall₂ R l₁ l₂ → List.Forall₂ R (l₁.eraseIdx j) (l₂.eraseIdx j)
  | [], [], _, .nil => .nil
  | _ :: _, _ :: _, 0, .cons _ hl => hl
  | _ :: _, _ :: _, _ + 1, .cons h hl => .cons h (forall₂_eraseIdx hl)

end List

theorem hookSteps_set : ∀ {bounds : List Nat} {j k : Nat}, bounds[j]? = some (k + 1) →
    hookSteps (bounds.set j k) + 1 = hookSteps bounds
  | [], _, _, h => by simp at h
  | _ :: _, 0, _, h => by
    rw [List.getElem?_cons_zero, Option.some.injEq] at h
    subst h
    simp only [hookSteps, List.set_cons_zero]
    omega
  | _ :: bs, j + 1, _, h => by
    rw [List.getElem?_cons_succ] at h
    have := @hookSteps_set bs j _ h
    simp only [hookSteps, List.set_cons_succ] at this ⊢
    omega

theorem hookSteps_eraseIdx : ∀ {bounds : List Nat} {j k : Nat}, bounds[j]? = some k →
    hookSteps (bounds.eraseIdx j) + (k + 1) = hookSteps bounds
  | [], _, _, h => by simp at h
  | _ :: _, 0, _, h => by
    rw [List.getElem?_cons_zero, Option.some.injEq] at h
    subst h
    simp only [hookSteps, List.eraseIdx_cons_zero]
    omega
  | _ :: bs, j + 1, _, h => by
    rw [List.getElem?_cons_succ] at h
    have := @hookSteps_eraseIdx bs j _ h
    simp only [hookSteps, List.eraseIdx_cons_succ] at this ⊢
    omega

theorem hookSteps_le {bounds : List Nat} (h : ∀ n ∈ bounds, n ≤ 3) :
    hookSteps bounds ≤ 4 * bounds.length := by
  induction bounds with
  | nil => simp [hookSteps]
  | cons n ns ih =>
    have := h n (List.mem_cons_self _ _)
    have := ih fun k hk => h k (List.mem_cons_of_mem _ hk)
    simp only [hookSteps, List.length_cons] at this ⊢
    omega

/-- `bounds` bounds, hook by hook, the engine calls the hooks in flight have left to make, and
none is over three. -/
structure World.Budget (w : World) (bounds : List Nat) : Prop where
  settles : List.Forall₂ (fun p n => p.Settles n) w.pending bounds
  le_three : ∀ n ∈ bounds, n ≤ 3

def Event.isCall : Event → Bool
  | .issue _ _ => false
  | .advance _ _ => true

namespace World

variable {svc : CoreService} {cluster : Cluster}

theorem step_advance {w w' : World} {j : Nat} {d : Dispatch}
    (h : step svc cluster w (.advance j d) = some w') :
    ∃ p rest fired, w.pending[j]? = some p ∧ p.advance d w.fleet = .ok (rest, w'.fleet, fired) ∧
      w'.pending = (match rest with
        | some p' => w.pending.set j p'
        | none => w.pending.eraseIdx j) ++ fired.map Task.prog := by
  simp only [step] at h
  split at h
  · cases h
  · rename_i p hp
    split at h
    · rename_i rest fleet fired hadv
      cases h
      exact ⟨p, rest, fired, hp, hadv, rfl⟩
    · cases h

theorem budget_advance {w w' : World} {bounds : List Nat} {j : Nat} {d : Dispatch}
    (hw : w.Budget bounds) (h : step svc cluster w (.advance j d) = some w') :
    ∃ bounds', w'.Budget bounds' ∧ hookSteps bounds' < hookSteps bounds := by
  obtain ⟨p, rest, fired, hp, hadv, hpending⟩ := step_advance h
  obtain ⟨n, hn, hpn⟩ := List.forall₂_getElem? hw.settles hp
  obtain ⟨rfl, hrest⟩ := hpn.advance hadv
  rw [List.map_nil, List.append_nil] at hpending
  cases rest with
  | none =>
    refine ⟨bounds.eraseIdx j, ⟨hpending ▸ List.forall₂_eraseIdx hw.settles,
      fun k hk => hw.le_three k (List.mem_of_mem_eraseIdx hk)⟩, ?_⟩
    have := hookSteps_eraseIdx hn
    omega
  | some p' =>
    obtain ⟨k, rfl, hk⟩ := hrest p' rfl
    refine ⟨bounds.set j k, ⟨hpending ▸ List.forall₂_set hw.settles hk, fun k' hk' => ?_⟩, ?_⟩
    · rcases List.mem_or_eq_of_mem_set hk' with hk' | rfl
      · exact hw.le_three k' hk'
      · have := hw.le_three _ (List.getElem?_mem hn)
        omega
    · have := hookSteps_set hn
      omega

theorem budget_issue {w w' : World} {bounds : List Nat} {q : Request} {d : Dispatch}
    (hw : w.Budget bounds) (h : step svc cluster w (.issue q d) = some w') :
    ∃ bounds', w'.Budget bounds' := by
  simp only [step] at h
  split at h
  · rename_i fleet fired _
    cases h
    refine ⟨bounds ++ fired.map fun _ => 3, ⟨List.rel_append hw.settles ?_, fun n hn => ?_⟩⟩
    · rw [List.forall₂_map_left_iff, List.forall₂_map_right_iff]
      exact List.forall₂_same.mpr fun t _ => Task.prog_settles t
    · rcases List.mem_append.mp hn with hn | hn
      · exact hw.le_three n hn
      · obtain ⟨_, -, rfl⟩ := List.mem_map.mp hn
        exact le_rfl
  · cases h

/-- A run keeps a budget: every world it reaches has one. -/
theorem budget_run : ∀ (events : List Event) {w w' : World} {bounds : List Nat},
    w.Budget bounds → run svc cluster w events = some w' → ∃ bounds', w'.Budget bounds'
  | [], _, _, bounds, hw, h => by cases h; exact ⟨bounds, hw⟩
  | e :: es, _, _, _, hw, h => by
    obtain ⟨w₁, h₁, hrest⟩ := Option.bind_eq_some.mp h
    cases e with
    | issue q d =>
      obtain ⟨b₁, hw₁⟩ := budget_issue hw h₁
      exact budget_run es hw₁ hrest
    | advance j d =>
      obtain ⟨b₁, hw₁, -⟩ := budget_advance hw h₁
      exact budget_run es hw₁ hrest

theorem calls_le_budget : ∀ (calls : List Event) {w w' : World} {bounds : List Nat},
    (∀ e ∈ calls, Event.isCall e) → w.Budget bounds → run svc cluster w calls = some w' →
      calls.length ≤ hookSteps bounds
  | [], _, _, _, _, _, _ => Nat.zero_le _
  | .issue _ _ :: _, _, _, _, hcalls, _, _ => absurd (hcalls _ (List.mem_cons_self _ _)) (by simp [Event.isCall])
  | .advance j d :: es, _, _, _, hcalls, hw, h => by
    obtain ⟨w₁, h₁, h⟩ := Option.bind_eq_some.mp h
    obtain ⟨b₁, hw₁, hlt⟩ := budget_advance hw h₁
    have := calls_le_budget es (fun e he => hcalls e (List.mem_cons_of_mem _ he)) hw₁ h
    simp only [List.length_cons]
    omega

theorem advance_first (d : Dispatch) {w : World} {bounds : List Nat} (hw : w.Budget bounds) :
    w.pending = [] ∨ (∃ p rest e, w.pending = p :: rest ∧ p.advance d w.fleet = .error e) ∨
      ∃ w₁ b₁, step svc cluster w (.advance 0 d) = some w₁ ∧ w₁.Budget b₁ ∧
        hookSteps b₁ < hookSteps bounds := by
  cases hp : w.pending with
  | nil => exact .inl rfl
  | cons p rest =>
    cases hadv : p.advance d w.fleet with
    | error e => exact .inr (.inl ⟨p, rest, e, rfl, hadv⟩)
    | ok r =>
      obtain ⟨rest', fleet', fired⟩ := r
      obtain ⟨w₁, h₁⟩ : ∃ w₁, step svc cluster w (.advance 0 d) = some w₁ := by
        simp [step, hp, hadv]
      obtain ⟨b₁, hw₁, hlt⟩ := budget_advance hw h₁
      exact .inr (.inr ⟨w₁, b₁, h₁, hw₁, hlt⟩)

/-- Calling the first hook again and again, each time with `d`, ends within the budget's steps,
with no hook in flight or at a call that panics. -/
theorem drain (d : Dispatch) {w : World} {bounds : List Nat} (hw : w.Budget bounds) :
    ∃ k ≤ hookSteps bounds, ∃ w', run svc cluster w (List.replicate k (.advance 0 d)) = some w' ∧
      (w'.pending = [] ∨ ∃ p rest e, w'.pending = p :: rest ∧ p.advance d w'.fleet = .error e) := by
  rcases advance_first d hw with hnil | hpanic | ⟨w₁, b₁, h₁, hw₁, hlt⟩
  · exact ⟨0, Nat.zero_le _, w, rfl, .inl hnil⟩
  · exact ⟨0, Nat.zero_le _, w, rfl, .inr hpanic⟩
  · obtain ⟨k, hk, w', hrun, hend⟩ := drain d hw₁
    exact ⟨k + 1, by omega, w', by rw [List.replicate_succ, run, h₁]; exact hrun, hend⟩
termination_by hookSteps bounds

end World

/-- The hooks in flight come to an end. In every world that a run reaches from a world with no
hook in flight, whatever requests it issued and whatever failed, no run of hook calls alone is
longer than four times the hooks in flight: each makes at most three engine calls and fires no
hook. And calling the first hook again and again, with any one dispatch, leaves no hook in flight
within that many steps, unless a call panics. -/
theorem hooks_quiesce (svc : CoreService) (cluster : Cluster) (fleet : Fleet) (events : List Event)
    {w : World} (hrun : World.run svc cluster ⟨fleet, []⟩ events = some w) :
    (∀ calls : List Event, (∀ e ∈ calls, e.isCall) → ∀ w', World.run svc cluster w calls = some w' →
      calls.length ≤ 4 * w.pending.length) ∧
    ∀ d : Dispatch, ∃ k ≤ 4 * w.pending.length, ∃ w',
      World.run svc cluster w (List.replicate k (.advance 0 d)) = some w' ∧
        (w'.pending = [] ∨ ∃ p rest e, w'.pending = p :: rest ∧ p.advance d w'.fleet = .error e) := by
  obtain ⟨bounds, hw⟩ := World.budget_run events ⟨.nil, by simp⟩ hrun
  have hsteps : hookSteps bounds ≤ 4 * w.pending.length := by
    rw [hw.settles.length_eq]
    exact hookSteps_le hw.le_three
  refine ⟨fun calls hcalls w' h => (World.calls_le_budget calls hcalls hw h).trans hsteps,
    fun d => ?_⟩
  obtain ⟨k, hk, w', h, hend⟩ := World.drain d hw
  exact ⟨k, hk.trans hsteps, w', h, hend⟩

def onlyA : Dispatch := ⟨fun b => b ≠ replicaA, fun _ => 0⟩

/-- On the trio with `c` stale: a Get, whose repair writes `c`, and a Set that only `a`
acknowledges, whose rollback deletes it there. -/
def repairAndRollback : List Event :=
  [.issue (.get ⟨"k", {}⟩) .reliable, .issue (.set ⟨"j", [1], 0, {}⟩) onlyA]

theorem hooks_quiesce_after_repair_and_rollback :
    ∃ w, World.run (CoreService.new []) trioCluster ⟨staleOnC, []⟩ repairAndRollback = some w ∧
      w.pending.length = 2 ∧
      (∀ calls : List Event, (∀ e ∈ calls, e.isCall) → ∀ w',
        World.run (CoreService.new []) trioCluster w calls = some w' →
          calls.length ≤ 4 * w.pending.length) ∧
      ∀ d : Dispatch, ∃ k ≤ 4 * w.pending.length, ∃ w',
        World.run (CoreService.new []) trioCluster w (List.replicate k (.advance 0 d)) = some w' ∧
          (w'.pending = [] ∨ ∃ p rest e, w'.pending = p :: rest ∧ p.advance d w'.fleet = .error e) :=
  ⟨_, rfl, rfl, hooks_quiesce (CoreService.new []) trioCluster staleOnC repairAndRollback rfl⟩

end KeyValueStore
