import KeyValueStore.ReadQuorum

set_option autoImplicit false

/-!
# The requests that always return

The engine panics only where a comparer or a type assertion does. `byteComparer` and
`booleanComparer` answer on every pair of the values their reads return, and the write
operators of Set and Delete never fail, so Set, Get, Delete, Exists and Expire return for every
fleet and every failure of the backends. GetTTL compares expirations, and comparing a missing one
dereferences nil: it returns whenever every backend holding the key has an expiration, and
`getTTL_panics` shows it may panic otherwise. Issuing a request is then always a step of the
world, but for such a GetTTL.
-/

namespace KeyValueStore

namespace QuorumEngine

variable {cmp : ValueComparer}

theorem countNotFound_map_value (b : Backend) : ∀ G : List Group,
    (countNotFound b G).map Group.value =
      if none ∈ G.map Group.value then G.map Group.value else G.map Group.value ++ [none]
  | [] => rfl
  | g :: gs => by
    by_cases hg : g.value = none
    · simp [countNotFound, hg]
    · simp only [countNotFound, hg, if_false, List.map_cons, countNotFound_map_value b gs,
        List.mem_cons, Ne.symm hg, false_or]
      split <;> rfl

theorem countValue_map_value {b : Backend} {v : Value} : ∀ {G G' : List Group},
    countValue cmp b v G = .ok G' →
      G'.map Group.value = G.map Group.value ∨
        (∀ g ∈ G, ∀ rep, g.value = some rep → cmp rep v = .ok false) ∧
          G'.map Group.value = G.map Group.value ++ [some v]
  | [], G', h => by
    simp only [countValue, Except.ok.injEq] at h
    exact .inr ⟨by simp, by simp [← h]⟩
  | g :: gs, G', h => by
    have skip : ∀ gs', countValue cmp b v gs = .ok gs' → G' = g :: gs' →
        (∀ rep, g.value = some rep → cmp rep v = .ok false) →
        G'.map Group.value = (g :: gs).map Group.value ∨
          (∀ g' ∈ g :: gs, ∀ rep, g'.value = some rep → cmp rep v = .ok false) ∧
            G'.map Group.value = (g :: gs).map Group.value ++ [some v] := by
      rintro gs' hgs rfl hg
      rcases countValue_map_value hgs with hsame | ⟨hrej, happ⟩
      · exact .inl (by simp [hsame])
      · exact .inr ⟨List.forall_mem_cons.mpr ⟨hg, hrej⟩, by simp [happ]⟩
    cases hg : g.value with
    | none =>
      simp only [countValue, hg] at h
      obtain ⟨gs', hgs, rfl⟩ := Except.map_eq_ok.mp h
      exact skip gs' hgs rfl (by simp [hg])
    | some rep =>
      simp only [countValue, hg, bind, Except.bind] at h
      cases hc : cmp rep v with
      | error p => simp [hc] at h
      | ok accept =>
        cases accept
        · simp only [hc, Bool.false_eq_true, if_false] at h
          obtain ⟨gs', hgs, rfl⟩ := Except.map_eq_ok.mp h
          exact skip gs' hgs rfl (by simp [hg, hc])
        · simp only [hc, if_true, pure, Except.pure, Except.ok.injEq] at h
          exact .inl (by simp [← h, hg])

theorem countValue_ok_of (V : Value → Prop) (hV : ∀ x y, V x → V y → ∃ c, cmp x y = .ok c)
    (b : Backend) {v : Value} (hv : V v) : ∀ G : List Group,
      (∀ rep, some rep ∈ G.map Group.value → V rep) → ∃ G', countValue cmp b v G = .ok G'
  | [], _ => ⟨_, rfl⟩
  | g :: gs, hG => by
    obtain ⟨gs', hgs⟩ := countValue_ok_of V hV b hv gs fun rep h => hG rep (List.mem_cons_of_mem _ h)
    cases hg : g.value with
    | none => exact ⟨g :: gs', by simp only [countValue, hg, hgs]; rfl⟩
    | some rep =>
      obtain ⟨c, hc⟩ := hV rep v (hG rep (by simp [hg])) hv
      cases c
      · exact ⟨g :: gs', by simp only [countValue, hg, hc, hgs]; rfl⟩
      · exact ⟨_, by simp only [countValue, hg, hc]; rfl⟩

theorem count_ok_of (V : Value → Prop) (hV : ∀ x y, V x → V y → ∃ c, cmp x y = .ok c) :
    ∀ (rs : List Reply) (G : List Group), (∀ rep, some rep ∈ G.map Group.value → V rep) →
      (∀ r ∈ rs, ∀ v, r.2 = .ok v → V v) → ∃ G', count cmp G rs = .ok G'
  | [], G, _, _ => ⟨G, rfl⟩
  | (b, r) :: rs, G, hG, hrs => by
    have tail := fun G₁ hG₁ =>
      count_ok_of V hV rs G₁ hG₁ fun r hr => hrs r (List.mem_cons_of_mem _ hr)
    cases r with
    | ok v =>
      have hv := hrs _ (List.mem_cons_self _ _) v rfl
      obtain ⟨G₁, hG₁⟩ := countValue_ok_of V hV b hv G hG
      rw [count_cons_ok, hG₁]
      refine tail G₁ fun rep hrep => ?_
      rcases countValue_map_value hG₁ with hsame | ⟨-, happ⟩
      · exact hG rep (hsame ▸ hrep)
      · rw [happ, List.mem_append, List.mem_singleton, Option.some.injEq] at hrep
        exact hrep.elim (hG rep) (· ▸ hv)
    | error e =>
      cases e
      case notFound =>
        refine tail _ fun rep hrep => hG rep ?_
        rw [countNotFound_map_value] at hrep
        split at hrep
        · exact hrep
        · simpa using hrep
      all_goals
        rw [count_cons_uncounted cmp G _ rs ⟨_, rfl, by simp⟩]
        exact tail G hG

variable {fleet : Fleet} {d : Dispatch} {nodes : List Backend} {votes : Nat}
  {operator : ReadOperator} {mode : VotingMode}

theorem read_ok_of (V : Value → Prop) (hV : ∀ x y, V x → V y → ∃ c, cmp x y = .ok c)
    (hans : ∀ b ∈ nodes, ∀ v, answer operator d fleet b = .ok v → V v) :
    ∃ o, read fleet d nodes votes operator cmp mode =
        .ok (o, (dispatchRead operator d nodes fleet).2) ∧ ∀ v, o.result = .ok v → V v := by
  have hrs : ∀ r ∈ arrive d (nodes.map fun b => (b, answer operator d fleet b)),
      ∀ v, r.2 = .ok v → V v := by
    intro r hr v hv
    obtain ⟨b, hb, rfl⟩ := mem_arrive_answers hr
    exact hans b hb v hv
  obtain ⟨G, hG⟩ := count_ok_of V hV _ [] (by simp) hrs
  refine ⟨_, by rw [read_eq, hG]; rfl, fun v hv => ?_⟩
  have hvals := count_values_of cmp (fun y => ∀ v, y = some v → V v) hG (by simp)
    fun r hr => ⟨fun u hu _ h => Option.some.inj h ▸ hrs r hr u hu, fun _ _ h => by cases h⟩
  obtain ⟨i, w, hl, -, hres⟩ := verdict_result (by rw [hv]; simp)
  rw [hv, Group.result] at hres
  have hw : w ∈ G := List.getElem?_mem (leader_get mode G i w hl).1
  cases hwv : w.value with
  | none => simp [hwv] at hres
  | some rep =>
    simp only [hwv, Except.ok.injEq] at hres
    exact hres ▸ hvals w hw rep hwv

end QuorumEngine

section Requests

variable (svc : CoreService) (cluster : Cluster)

theorem performRead_bind_returns {α : Type} {key : Key} (options : ReadOptions)
    (operator : ReadOperator) (repair : RepairOperator) (cmp : ValueComparer)
    (hop : operator.key = key) (V : Value → Prop) (hV : ∀ x y, V x → V y → ∃ c, cmp x y = .ok c)
    {fleet : Fleet} (hheld : ∀ b e, fleet b key = some e → V (operator.held e))
    {k : Except Error Value → Prog α}
    (hk : ∀ x, (∀ v, x = .ok v → V v) → ∀ ds fleet', ∃ r, (k x).exec ds fleet' = .ok r)
    (ds : List Dispatch) :
    ∃ r, ((svc.performRead cluster key options operator repair cmp).bind k).exec ds fleet =
      .ok r := by
  unfold CoreService.performRead
  cases cluster.read key (svc.readConsistency options) with
  | error err => exact hk _ (fun _ h => by cases h) ds fleet
  | ok rv =>
    obtain ⟨o, hread, hres⟩ := @QuorumEngine.read_ok_of cmp fleet (ds.headD .reliable)
      rv.backends rv.voteRequired operator rv.votingMode V hV fun b _ v hv => by
        obtain ⟨e, he, rfl⟩ := QuorumEngine.answer_ok hv
        exact hheld b e (hop ▸ he)
    obtain ⟨r, hr⟩ := hk o.result hres ds.tail
      (QuorumEngine.dispatchRead operator (ds.headD .reliable) rv.backends fleet).2
    exact ⟨_, by simp only [Engine.read, Prog.read_bind, Prog.exec_read, hread, Except.ok_bind,
      Prog.ret_bind, hr]; rfl⟩

variable (ds : List Dispatch) (fleet : Fleet)

theorem get_never_panics (g : GetRequest) : ∃ r, (svc.get cluster g).exec ds fleet = .ok r := by
  simp only [CoreService.get, Prog.bind_eq]
  refine performRead_bind_returns svc cluster g.options (.get g.key) (.get g.key) byteComparer rfl
    (fun v => ∃ bs, v = .bytes bs)
    (fun _ _ ⟨a, ha⟩ ⟨c, hc⟩ => ⟨a == c, by rw [ha, hc]; rfl⟩) (fun _ e _ => ⟨e.data, rfl⟩)
    (fun x hx _ _ => ?_) ds
  rcases x with e | v
  · exact ⟨_, rfl⟩
  · obtain ⟨bs, rfl⟩ := hx v rfl
    exact ⟨_, rfl⟩

theorem existence_returns {β : Type} (mk : Bool → β) {key : Key} (options : ReadOptions)
    (operator : ReadOperator) (repair : RepairOperator) (hop : operator.key = key)
    (hheld : ∀ e, operator.held e = .bool true) :
    ∃ r, ((svc.performRead cluster key options operator repair booleanComparer).bind fun x =>
      match x with
      | .error .notFound => pure (.ok (mk false))
      | .error err => pure (.error (convertErrorToGRPC err))
      | .ok rawResult => (Prog.lift rawResult.asBool).bind fun v => pure (.ok (mk v)) :
        Prog (Except Status β)).exec ds fleet = .ok r := by
  refine performRead_bind_returns svc cluster options operator repair _ hop
    (fun v => ∃ c, v = .bool c) (fun _ _ ⟨a, ha⟩ ⟨c, hc⟩ => ⟨a == c, by rw [ha, hc]; rfl⟩)
    (fun _ e _ => ⟨true, hheld e⟩) (fun x hx _ _ => ?_) ds
  rcases x with e | v
  · cases e <;> exact ⟨_, rfl⟩
  · obtain ⟨c, rfl⟩ := hx v rfl
    exact ⟨_, rfl⟩

theorem exists_never_panics (r : ExistsRequest) :
    ∃ x, (CoreService.exists svc cluster r).exec ds fleet = .ok x :=
  existence_returns svc cluster ds fleet ExistsResponse.mk _ _ _ rfl fun _ => rfl

theorem expire_never_panics (r : ExpireRequest) :
    ∃ x, (svc.expire cluster r).exec ds fleet = .ok x :=
  existence_returns svc cluster ds fleet ExpireResponse.mk _ (.expire r.key r.expiration) _ rfl
    fun _ => rfl

theorem getTTL_returns_of_expiring (r : GetTTLRequest)
    (hexp : ∀ b e, fleet b r.key = some e → e.ttl.isSome) :
    ∃ x, (svc.getTTL cluster r).exec ds fleet = .ok x := by
  simp only [CoreService.getTTL, Prog.bind_eq]
  refine performRead_bind_returns svc cluster r.options (.ttl r.key) (.getTTL r.key)
    durationComparer rfl (fun v => ∃ t, v = .duration (some t))
    (fun _ _ ⟨a, ha⟩ ⟨c, hc⟩ => by subst ha hc; exact ⟨_, durationComparer_some a c⟩)
    (fun b e he => ?_) (fun x hx _ _ => ?_) ds
  · obtain ⟨t, ht⟩ := Option.isSome_iff_exists.mp (hexp b e he)
    exact ⟨t, by rw [← ht]; rfl⟩
  · rcases x with e | v
    · exact ⟨_, rfl⟩
    · obtain ⟨t, rfl⟩ := hx v rfl
      exact ⟨_, rfl⟩

theorem set_never_panics (request : SetRequest) :
    ∃ r, (svc.set cluster request).exec ds fleet = .ok r := by
  cases hview : cluster.write request.key (svc.writeConsistency request.options) with
  | error err => exact ⟨_, performWrite_exec_error svc cluster _ _ _ _ _ hview ds fleet⟩
  | ok view =>
    rw [set_exec svc cluster request hview, QuorumEngine.write_of_acts _
      (WriteOperator.acts_set _ _ _) (fun s => Store.set_set s _ _ _)]
    exact ⟨_, rfl⟩

theorem delete_never_panics (request : DeleteRequest) :
    ∃ r, (svc.delete cluster request).exec ds fleet = .ok r := by
  cases hview : cluster.write request.key (svc.writeConsistency request.options) with
  | error err => exact ⟨_, performWrite_exec_error svc cluster _ _ _ _ _ hview ds fleet⟩
  | ok view =>
    rw [show (svc.delete cluster request).exec ds fleet = _ from
        performWrite_exec svc cluster _ _ _ _ _ hview ds fleet, if_neg (by decide),
      QuorumEngine.write_of_acts _ (WriteOperator.acts_delete _) (Store.delete_delete · _)]
    exact ⟨_, rfl⟩

/-- Every request returns, but a GetTTL of a key that a backend holds without an expiration. -/
theorem Request.exec_returns (q : Request) (d : Dispatch)
    (hq : ∀ r, q = .getTTL r → ∀ b e, fleet b r.key = some e → e.ttl.isSome) :
    ∃ r, q.exec svc cluster d fleet = .ok r := by
  have hmap : ∀ {α : Type} {x : Except Panic (α × Fleet × List Task)}, (∃ r, x = .ok r) →
      ∃ r, x.map (·.2) = .ok r := by
    rintro _ _ ⟨r, rfl⟩
    exact ⟨_, rfl⟩
  cases q with
  | set r => exact hmap (set_never_panics svc cluster [d] fleet r)
  | delete r => exact hmap (delete_never_panics svc cluster [d] fleet r)
  | get r => exact hmap (get_never_panics svc cluster [d] fleet r)
  | «exists» r => exact hmap (exists_never_panics svc cluster [d] fleet r)
  | expire r => exact hmap (expire_never_panics svc cluster [d] fleet r)
  | getTTL r => exact hmap (getTTL_returns_of_expiring svc cluster [d] fleet r (hq r rfl))

end Requests

/-- Issuing a request never panics, but for a GetTTL of a key that some backend holds without an
expiration: from every world, for every failure of the backends, issuing any other request is a
step of the world. The repairs a Get, an Exists or an Expire fires may still panic when they run
(`valueRepair_panics`). -/
theorem requests_never_panic (svc : CoreService) (cluster : Cluster) (w : World) (q : Request)
    (d : Dispatch) (hq : ∀ r, q = .getTTL r → ∀ b e, w.fleet b r.key = some e → e.ttl.isSome) :
    ∃ w', World.step svc cluster w (.issue q d) = some w' := by
  obtain ⟨⟨fleet, fired⟩, h⟩ := Request.exec_returns svc cluster w.fleet q d hq
  exact ⟨⟨fleet, w.pending ++ fired.map Task.prog⟩, by simp only [World.step, h]⟩

theorem getTTL_steps_on_skewed_trio :
    ∃ w', World.step (CoreService.new []) trioCluster ⟨skewedTTLs, []⟩
      (.issue (.getTTL ⟨"k", {}⟩) .reliable) = some w' :=
  requests_never_panic (CoreService.new []) trioCluster ⟨skewedTTLs, []⟩ (.getTTL ⟨"k", {}⟩)
    .reliable fun r hr b e he => by
      cases hr
      simp only [skewedTTLs, if_pos rfl, ite_true, Option.some.injEq] at he
      rw [← he]
      rfl

end KeyValueStore
