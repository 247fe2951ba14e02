import KeyValueStore.Durability
import KeyValueStore.Safety

set_option autoImplicit false

/-!
# What a read returns, a quorum of its view held

The engine's verdict is the largest candidate group of equivalent answers, and only a group with
the votes wins. Each reply joins one group at most, so the winners are a part of the view's
backends, counted once each; each of them answered its own dispatch. For the exact comparers of
Get, Exists and Expire every winner answered the very result. So whatever these requests return,
whatever backends fail and in whatever order the replies arrive, at least `voteRequired` of the
view's backends held it when they were read.
-/

namespace KeyValueStore

namespace QuorumEngine

variable {cmp : ValueComparer}

theorem count_subperm : ∀ {G G' : List Group} {rs : List Reply}, count cmp G rs = .ok G' →
    (G'.flatMap Group.members).Subperm (G.flatMap Group.members ++ rs.map Prod.fst)
  | G, G', [], h => by
    simp only [count, Except.ok.injEq] at h
    simpa [h] using List.Subperm.refl (G'.flatMap Group.members)
  | G, G', (b, r) :: rs, h => by
    cases r with
    | ok v =>
      rw [count_cons_ok, Except.bind_eq_ok] at h
      obtain ⟨G₁, hG, h⟩ := h
      exact (count_subperm h).trans
        (by simpa using ((countValue_members cmp hG).append_right (rs.map Prod.fst)).subperm)
    | error e =>
      cases e
      case notFound =>
        change count cmp (countNotFound b G) rs = .ok G' at h
        exact (count_subperm h).trans
          (by simpa using ((countNotFound_members b G).append_right (rs.map Prod.fst)).subperm)
      all_goals
        rw [count_cons_uncounted cmp G _ rs ⟨_, rfl, by simp⟩] at h
        exact (count_subperm h).trans ((List.sublist_cons_self b _).append_left _).subperm

theorem verdict_result {votes : Nat} {mode : VotingMode} {G : List Group}
    (h : (verdict votes mode G).result ≠ .error .consistency) :
    ∃ i w, leader mode G = some (i, w) ∧ votes ≤ w.members.length ∧
      (verdict votes mode G).result = w.result := by
  unfold verdict at h ⊢
  split at h
  · rename_i i w hl
    split at h
    · rename_i hv
      exact ⟨i, w, hl, hv, by simp [hl, hv]⟩
    · exact absurd rfl h
  · exact absurd rfl h

variable {fleet fleet' : Fleet} {d : Dispatch} {nodes : List Backend} {votes : Nat}
  {operator : ReadOperator} {mode : VotingMode} {o : ReadOutcome}

theorem members_subperm {G : List Group} {w : Group}
    (hG : count cmp [] (arrive d (nodes.map fun b => (b, answer operator d fleet b))) = .ok G)
    (hw : w ∈ G) : w.members.Subperm nodes := by
  refine (List.sublist_flatten_of_mem (List.mem_map_of_mem Group.members hw)).subperm.trans
    ((count_subperm hG).trans ?_)
  simpa [Function.comp_def] using
    ((arrive_perm d (nodes.map fun b => (b, answer operator d fleet b))).map Prod.fst).subperm

/-- A read's result other than `ErrConsistency` is a sound group's outcome, a group with the
votes whose members are a part of the nodes. -/
theorem read_quorum (h : read fleet d nodes votes operator cmp mode = .ok (o, fleet'))
    (hr : o.result ≠ .error .consistency) :
    ∃ w : Group, w.result = o.result ∧ votes ≤ w.members.length ∧ w.members.Subperm nodes ∧
      Sound cmp (answer operator d fleet) w := by
  rw [read_eq, Except.map_eq_ok] at h
  obtain ⟨G, hG, h⟩ := h
  cases h
  obtain ⟨i, w, hl, hv, hres⟩ := verdict_result hr
  have hw : w ∈ G := List.getElem?_mem (leader_get mode G i w hl).1
  refine ⟨w, hres.symm, hv, members_subperm hG hw, count_sound hG (fun r hr => ?_) (by simp) w hw⟩
  obtain ⟨b, -, rfl⟩ := mem_arrive_answers hr
  rfl

theorem read_ok_args (h : read fleet d nodes votes operator cmp mode = .ok (o, fleet'))
    {v : Value} (hv : o.result = .ok v) : ∃ a, o.args = some a ∧ a.value = v ∧ a.err = none := by
  rw [read_eq, Except.map_eq_ok] at h
  obtain ⟨G, -, h⟩ := h
  cases h
  obtain ⟨i, w, hl, hvotes, -⟩ := verdict_result (by rw [hv]; simp)
  simp only [verdict, hl, if_pos hvotes] at hv ⊢
  cases hw : w.value <;> simp [Group.result, hw] at hv
  exact ⟨_, rfl, by simp [hw, hv], by simp [hw]⟩

theorem read_quorum_exact (hexact : ∀ {x y}, cmp x y = .ok true → y = x)
    (h : read fleet d nodes votes operator cmp mode = .ok (o, fleet'))
    (hr : o.result ≠ .error .consistency) :
    ∃ winners : List Backend, votes ≤ winners.length ∧ winners ≠ [] ∧
      winners.Subperm nodes ∧ ∀ b ∈ winners, answer operator d fleet b = o.result := by
  obtain ⟨w, hres, hv, hsub, hs⟩ := read_quorum h hr
  refine ⟨w.members, hv, hs.nonempty, hsub, fun b hb => hres ▸ ?_⟩
  have hans := hs.answered b hb
  unfold Group.result
  cases hwv : w.value with
  | none => simpa only [hwv] using hans
  | some rep =>
    simp only [hwv] at hans
    obtain ⟨v, hv, rfl | hacc⟩ := hans
    · exact hv
    · exact hv.trans (congrArg _ (hexact hacc))

theorem faulty_of_answer {b : Backend} {x : Except Error Value}
    (h : answer operator d fleet b = x) (hx : x ≠ .error .internal) : d.faulty b = false := by
  unfold answer at h
  split at h
  · exact absurd h.symm hx
  · rename_i hf
    simpa using hf

theorem read_fleet_of_mem (h : read fleet d nodes votes operator cmp mode = .ok (o, fleet'))
    {b : Backend} (hb : b ∈ nodes) (hf : d.faulty b = false) :
    fleet' b = (operator.run (fleet b)).2 := by
  rw [read_eq, Except.map_eq_ok] at h
  obtain ⟨G, -, h⟩ := h
  cases h
  simp [dispatchRead_eq, hb, hf]

theorem holds_of_answer (hop : ∀ e, operator.held e = .bool true) {b : Backend}
    {x : Except Error Value} {c : Bool}
    (hx : x = .error .notFound ∧ c = false ∨ x = .ok (.bool c))
    (h : answer operator d fleet b = x) :
    d.faulty b = false ∧ (fleet b operator.key).isSome = c := by
  refine ⟨faulty_of_answer h (by rcases hx with ⟨rfl, -⟩ | rfl <;> simp), ?_⟩
  rcases hx with ⟨rfl, rfl⟩ | rfl
  · simp [answer_notFound h]
  · obtain ⟨e, he, hv⟩ := answer_ok h
    rw [hop, Value.bool.injEq] at hv
    simp [he, hv]

theorem existence_quorum (hop : ∀ e, operator.held e = .bool true)
    (h : read fleet d nodes votes operator booleanComparer mode = .ok (o, fleet')) {c : Bool}
    (hx : o.result = .error .notFound ∧ c = false ∨ o.result = .ok (.bool c)) :
    ∃ winners : List Backend, votes ≤ winners.length ∧ winners ≠ [] ∧
      winners.Subperm nodes ∧ ∀ b ∈ winners, d.faulty b = false ∧
        (fleet b operator.key).isSome = c := by
  have hr : o.result ≠ .error .consistency := by rcases hx with ⟨hx, -⟩ | hx <;> simp [hx]
  obtain ⟨winners, hv, hne, hsub, hans⟩ := read_quorum_exact booleanComparer_eq h hr
  exact ⟨winners, hv, hne, hsub, fun b hb => holds_of_answer hop hx (hans b hb)⟩

end QuorumEngine

namespace Prog

variable {α : Type} {ds : List Dispatch} {fleet : Fleet} {r : α × Fleet × List Task}

theorem exec_read_eq {nodes : List Backend} {votes : Nat} {operator : ReadOperator}
    {repair : Option RepairOperator} {cmp : ValueComparer} {mode : VotingMode}
    {next : Except Error Value → Prog α}
    (h : (read nodes votes operator repair cmp mode next).exec ds fleet = .ok r) :
    ∃ o fleet₁ r₁, QuorumEngine.read fleet (ds.headD .reliable) nodes votes operator cmp mode =
        .ok (o, fleet₁) ∧ (next o.result).exec ds.tail fleet₁ = .ok r₁ ∧ r.1 = r₁.1 ∧
      r.2.1 = r₁.2.1 ∧ r.2.2 = (repair.bind fun rr => o.args.map (Task.repair rr)).toList ++ r₁.2.2 := by
  rw [exec_read, Except.bind_eq_ok] at h
  obtain ⟨⟨o, fleet₁⟩, hread, h⟩ := h
  obtain ⟨r₁, hnext, h⟩ := Except.bind_eq_ok.mp h
  cases h
  refine ⟨o, fleet₁, r₁, hread, hnext, rfl, rfl, ?_⟩
  cases repair <;> cases o.args <;> rfl

end Prog

section Requests

variable (svc : CoreService) (cluster : Cluster) {ds : List Dispatch} {fleet : Fleet}

theorem performRead_bind_exec {α : Type} {key : Key} {options : ReadOptions}
    {operator : ReadOperator} {repair : RepairOperator} {cmp : ValueComparer}
    {k : Except Error Value → Prog α} {r : α × Fleet × List Task}
    (h : ((svc.performRead cluster key options operator repair cmp).bind k).exec ds fleet = .ok r) :
    (∃ err, cluster.read key (svc.readConsistency options) = .error err ∧
      (k (.error err)).exec ds fleet = .ok r) ∨
    ∃ rv o fleet₁ r₁, cluster.read key (svc.readConsistency options) = .ok rv ∧
      QuorumEngine.read fleet (ds.headD .reliable) rv.backends rv.voteRequired operator cmp
        rv.votingMode = .ok (o, fleet₁) ∧ (k o.result).exec ds.tail fleet₁ = .ok r₁ ∧
      r.1 = r₁.1 ∧ r.2.1 = r₁.2.1 ∧ r.2.2 = o.args.toList.map (Task.repair repair) ++ r₁.2.2 := by
  unfold CoreService.performRead at h
  cases hrv : cluster.read key (svc.readConsistency options) with
  | error err =>
    rw [hrv] at h
    exact .inl ⟨err, rfl, h⟩
  | ok rv =>
    simp only [hrv, Engine.read, Prog.read_bind, Prog.ret_bind] at h
    obtain ⟨o, fleet₁, r₁, hread, hnext, h1, h2, h3⟩ := Prog.exec_read_eq h
    refine .inr ⟨rv, o, fleet₁, r₁, rfl, hread, hnext, h1, h2, h3.trans ?_⟩
    cases o.args <;> rfl

theorem get_exec_ok (g : GetRequest) {resp : GetResponse} {fleet' : Fleet} {fired : List Task}
    (h : (svc.get cluster g).exec ds fleet = .ok (.ok resp, fleet', fired)) :
    ∃ rv o, cluster.read g.key (svc.readConsistency g.options) = .ok rv ∧
      QuorumEngine.read fleet (ds.headD .reliable) rv.backends rv.voteRequired (.get g.key)
        byteComparer rv.votingMode = .ok (o, fleet') ∧ o.result = .ok (.bytes resp.data) := by
  simp only [CoreService.get, Prog.bind_eq] at h
  rcases performRead_bind_exec svc cluster h with
    ⟨err, -, h⟩ | ⟨rv, o, fleet₁, ⟨_, _, _⟩, hrv, hread, hnext, h1, h2, -⟩
  · simp at h
  · cases h1
    cases h2
    rcases hres : o.result with e | (_ | data | _ | _)
    all_goals simp [hres, Value.asBytes] at hnext
    obtain ⟨rfl, rfl, -⟩ := hnext
    exact ⟨rv, o, hrv, hread, hres⟩

theorem get_winners_hold (g : GetRequest) {resp : GetResponse} {fleet' : Fleet}
    {fired : List Task} (h : (svc.get cluster g).exec ds fleet = .ok (.ok resp, fleet', fired)) :
    ∃ rv winners, cluster.read g.key (svc.readConsistency g.options) = .ok rv ∧
      rv.voteRequired ≤ winners.length ∧ winners ≠ [] ∧ winners.Subperm rv.backends ∧
        ∀ b ∈ winners, (ds.headD .reliable).faulty b = false ∧
          (fleet b g.key).map Entry.data = some resp.data := by
  obtain ⟨rv, o, hrv, hread, hres⟩ := get_exec_ok svc cluster g h
  obtain ⟨winners, hv, hne, hsub, hans⟩ :=
    QuorumEngine.read_quorum_exact byteComparer_eq hread (by simp [hres])
  refine ⟨rv, winners, hrv, hv, hne, hsub, fun b hb => ?_⟩
  have hb := (hans b hb).trans hres
  obtain ⟨e, he, hv⟩ := QuorumEngine.answer_ok hb
  refine ⟨QuorumEngine.faulty_of_answer hb (by simp), ?_⟩
  simp only [ReadOperator.key] at he
  simp only [ReadOperator.held, Value.bytes.injEq] at hv
  simp [he, hv]

/-- Whatever a Get returns, at least the view's votes of its backends, none of them failed, held
as the key's data, and the Get changed no backend. -/
theorem get_quorum_held (g : GetRequest) {resp : GetResponse} {fleet' : Fleet}
    {fired : List Task} (h : (svc.get cluster g).exec ds fleet = .ok (.ok resp, fleet', fired)) :
    fleet' = fleet ∧ ∃ rv winners, cluster.read g.key (svc.readConsistency g.options) = .ok rv ∧
      rv.voteRequired ≤ winners.length ∧ winners ≠ [] ∧ winners.Subperm rv.backends ∧
        ∀ b ∈ winners, (ds.headD .reliable).faulty b = false ∧
          (fleet b g.key).map Entry.data = some resp.data := by
  obtain ⟨rv, o, -, hread, -⟩ := get_exec_ok svc cluster g h
  exact ⟨QuorumEngine.read_fleet_of_pure (show (ReadOperator.get g.key).Pure from rfl) hread,
    get_winners_hold svc cluster g h⟩

theorem get_on_stale_trio :
    ∃ fleet' fired, ((CoreService.new []).get trioCluster ⟨"k", {}⟩).exec [] staleOnC =
        .ok (.ok ⟨[0]⟩, fleet', fired) ∧
      fleet' = staleOnC ∧ ∃ rv winners,
        trioCluster.read "k" ((CoreService.new []).readConsistency {}) = .ok rv ∧
        rv.voteRequired ≤ winners.length ∧ winners ≠ [] ∧ winners.Subperm rv.backends ∧
          ∀ b ∈ winners, (([] : List Dispatch).headD .reliable).faulty b = false ∧
            (staleOnC b "k").map Entry.data = some [0] :=
  ⟨_, _, rfl, get_quorum_held (CoreService.new []) trioCluster ⟨"k", {}⟩ rfl⟩

theorem existence_answer {β : Type} (mk : Bool → β) (hmk : ∀ {a b}, mk a = mk b → a = b)
    {x : Except Error Value} {c : Bool} {fleet₁ fleet' : Fleet} {fired : List Task}
    (h : (match x with
        | .error .notFound => pure (.ok (mk false))
        | .error err => pure (.error (convertErrorToGRPC err))
        | .ok rawResult => (Prog.lift rawResult.asBool).bind fun v => pure (.ok (mk v)) :
          Prog (Except Status β)).exec ds fleet₁ = .ok (.ok (mk c), fleet', fired)) :
    (x = .error .notFound ∧ c = false ∨ x = .ok (.bool c)) ∧ fleet' = fleet₁ := by
  rcases x with (_ | _) | (_ | _ | c' | _)
  all_goals simp [Value.asBool] at h
  · exact ⟨.inl ⟨rfl, (hmk h.1).symm⟩, h.2.1.symm⟩
  · exact ⟨.inr (by rw [hmk h.1]), h.2.1.symm⟩

/-- Whatever an Exists returns, the Exists changed no backend; and unless the cluster itself
answered `ErrNotFound` for the view, at least the view's votes of its backends, none of them
failed, held the key exactly when the answer is `true`. -/
theorem exists_quorum_held (r : ExistsRequest) {resp : ExistsResponse} {fleet' : Fleet}
    {fired : List Task}
    (h : (CoreService.exists svc cluster r).exec ds fleet = .ok (.ok resp, fleet', fired)) :
    fleet' = fleet ∧
      ((cluster.read r.key (svc.readConsistency r.options) = .error .notFound ∧
          resp.exists' = false) ∨
        ∃ rv winners, cluster.read r.key (svc.readConsistency r.options) = .ok rv ∧
          rv.voteRequired ≤ winners.length ∧ winners ≠ [] ∧ winners.Subperm rv.backends ∧
            ∀ b ∈ winners, (ds.headD .reliable).faulty b = false ∧
              (fleet b r.key).isSome = resp.exists') := by
  simp only [CoreService.exists, Prog.bind_eq] at h
  rcases performRead_bind_exec svc cluster h with
    ⟨err, hrv, h⟩ | ⟨rv, o, fleet₁, r₁, hrv, hread, hnext, h1, h2, -⟩
  · cases err
    case notFound =>
      simp only [Prog.exec_ret, Except.ok.injEq, Prod.mk.injEq] at h
      obtain ⟨rfl, rfl, -⟩ := h
      exact ⟨rfl, .inl ⟨hrv, rfl⟩⟩
    all_goals simp at h
  · obtain ⟨_, _, _⟩ := r₁
    cases h1
    cases h2
    obtain ⟨hx, rfl⟩ := existence_answer ExistsResponse.mk (fun h => by cases h; rfl) hnext
    obtain ⟨winners, hw⟩ := QuorumEngine.existence_quorum
      (show ∀ e, (ReadOperator.exists r.key).held e = .bool true from fun _ => rfl) hread hx
    exact ⟨QuorumEngine.read_fleet_of_pure (show (ReadOperator.exists r.key).Pure from rfl) hread,
      .inr ⟨rv, winners, hrv, hw⟩⟩

theorem exists_absent_on_trio :
    ∃ fleet' fired,
      (CoreService.exists (CoreService.new []) trioCluster ⟨"j", {}⟩).exec [cFails] staleOnC =
        .ok (.ok ⟨false⟩, fleet', fired) ∧
      fleet' = staleOnC ∧
        ((trioCluster.read "j" ((CoreService.new []).readConsistency {}) = .error .notFound ∧
            false = false) ∨
          ∃ rv winners, trioCluster.read "j" ((CoreService.new []).readConsistency {}) = .ok rv ∧
            rv.voteRequired ≤ winners.length ∧ winners ≠ [] ∧ winners.Subperm rv.backends ∧
              ∀ b ∈ winners, ([cFails].headD .reliable).faulty b = false ∧
                (staleOnC b "j").isSome = false) :=
  ⟨_, _, rfl, exists_quorum_held (CoreService.new []) trioCluster ⟨"j", {}⟩ rfl⟩

/-- Whatever an Expire returns, either the cluster itself answered `ErrNotFound` for the view
and no backend changed, or at least the view's votes of its backends, none of them failed, held
the key exactly when the answer is `true`, and each of them now holds it with the new
expiration. -/
theorem expire_quorum_applied (r : ExpireRequest) {resp : ExpireResponse} {fleet' : Fleet}
    {fired : List Task}
    (h : (svc.expire cluster r).exec ds fleet = .ok (.ok resp, fleet', fired)) :
    (cluster.read r.key (svc.readConsistency ⟨r.options.consistency⟩) = .error .notFound ∧
        resp.exists' = false ∧ fleet' = fleet) ∨
      ∃ rv winners,
        cluster.read r.key (svc.readConsistency ⟨r.options.consistency⟩) = .ok rv ∧
        rv.voteRequired ≤ winners.length ∧ winners ≠ [] ∧ winners.Subperm rv.backends ∧
          ∀ b ∈ winners, (ds.headD .reliable).faulty b = false ∧
            (fleet b r.key).isSome = resp.exists' ∧
              fleet' b r.key = (fleet b r.key).map fun e => { e with ttl := some r.expiration } := by
  simp only [CoreService.expire, Prog.bind_eq] at h
  rcases performRead_bind_exec svc cluster h with
    ⟨err, hrv, h⟩ | ⟨rv, o, fleet₁, ⟨_, _, _⟩, hrv, hread, hnext, h1, h2, -⟩
  · cases err
    case notFound =>
      simp only [Prog.exec_ret, Except.ok.injEq, Prod.mk.injEq] at h
      obtain ⟨rfl, rfl, -⟩ := h
      exact .inl ⟨hrv, rfl, rfl⟩
    all_goals simp at h
  · cases h1
    cases h2
    obtain ⟨hx, rfl⟩ := existence_answer ExpireResponse.mk (fun h => by cases h; rfl) hnext
    obtain ⟨winners, hv, hne, hsub, hw⟩ := QuorumEngine.existence_quorum
      (show ∀ e, (ReadOperator.expire r.key r.expiration).held e = .bool true from fun _ => rfl)
      hread hx
    refine .inr ⟨rv, winners, hrv, hv, hne, hsub, fun b hb => ⟨(hw b hb).1, (hw b hb).2, ?_⟩⟩
    rw [QuorumEngine.read_fleet_of_mem hread (hsub.subset hb) (hw b hb).1]
    cases he : fleet b r.key <;> simp [ReadOperator.run, Store.expire, he]

theorem expire_on_stale_trio :
    ∃ fleet' fired,
      ((CoreService.new []).expire trioCluster ⟨"k", 5, {}⟩).exec [] staleOnC =
        .ok (.ok ⟨true⟩, fleet', fired) ∧
      ((trioCluster.read "k" ((CoreService.new []).readConsistency {}) = .error .notFound ∧
          true = false ∧ fleet' = staleOnC) ∨
        ∃ rv winners, trioCluster.read "k" ((CoreService.new []).readConsistency {}) = .ok rv ∧
          rv.voteRequired ≤ winners.length ∧ winners ≠ [] ∧ winners.Subperm rv.backends ∧
            ∀ b ∈ winners, (([] : List Dispatch).headD .reliable).faulty b = false ∧
              (staleOnC b "k").isSome = true ∧
                fleet' b "k" = (staleOnC b "k").map fun e => { e with ttl := some 5 }) :=
  ⟨_, _, rfl, expire_quorum_applied (CoreService.new []) trioCluster ⟨"k", 5, {}⟩ rfl⟩

theorem getTTL_exec_ok (r : GetTTLRequest) {resp : GetTTLResponse} {fleet' : Fleet}
    {fired : List Task} (h : (svc.getTTL cluster r).exec ds fleet = .ok (.ok resp, fleet', fired)) :
    ∃ rv o raw, cluster.read r.key (svc.readConsistency r.options) = .ok rv ∧
      QuorumEngine.read fleet (ds.headD .reliable) rv.backends rv.voteRequired (.ttl r.key)
        durationComparer rv.votingMode = .ok (o, fleet') ∧ o.result = .ok raw ∧
      (raw = .nil ∨ raw = .duration resp.ttl) ∧
      fired = o.args.toList.map (Task.repair (.getTTL r.key)) := by
  simp only [CoreService.getTTL, Prog.bind_eq] at h
  rcases performRead_bind_exec svc cluster h with
    ⟨err, -, h⟩ | ⟨rv, o, fleet₁, ⟨_, _, _⟩, hrv, hread, hnext, h1, h2, h3⟩
  · simp at h
  · cases h1
    cases h2
    rcases hres : o.result with e | (_ | _ | ttl | _)
    all_goals simp [hres, Value.asDuration] at hnext
    all_goals obtain ⟨rfl, rfl, rfl⟩ := hnext
    all_goals exact ⟨rv, o, _, hrv, hread, hres, by simp, by simpa using h3⟩

theorem durationComparer_accepts {p q : Option Duration}
    (h : durationComparer (.duration p) (.duration q) = .ok true) :
    ∃ t t', p = some t ∧ q = some t' ∧ (absDiff (t - t')).slt acceptableDurationDiff = true := by
  rcases p with _ | t
  · rw [durationComparer_nil_left] at h
    cases h
  rcases q with _ | t'
  · rw [durationComparer_nil_right] at h
    cases h
  rw [durationComparer_some, Except.ok.injEq] at h
  exact ⟨t, t', rfl, rfl, h⟩

theorem nodup_of_subperm {L M : List Backend} (h : L.Subperm M) (hM : M.Nodup) : L.Nodup := by
  obtain ⟨l, hp, hs⟩ := h
  exact hp.nodup_iff.mp (hs.nodup hM)

theorem getTTL_winners_hold (r : GetTTLRequest) {resp : GetTTLResponse} {fleet' : Fleet}
    {fired : List Task} (h : (svc.getTTL cluster r).exec ds fleet = .ok (.ok resp, fleet', fired)) :
    ∃ rv o winners, cluster.read r.key (svc.readConsistency r.options) = .ok rv ∧
      QuorumEngine.read fleet (ds.headD .reliable) rv.backends rv.voteRequired (.ttl r.key)
        durationComparer rv.votingMode = .ok (o, fleet') ∧ o.result = .ok (.duration resp.ttl) ∧
      fired = o.args.toList.map (Task.repair (.getTTL r.key)) ∧
      rv.voteRequired ≤ winners.length ∧ winners ≠ [] ∧ winners.Subperm rv.backends ∧
        ∀ b ∈ winners, (ds.headD .reliable).faulty b = false ∧ ∃ e, fleet b r.key = some e ∧
          (e.ttl = resp.ttl ∨ ∃ t t', resp.ttl = some t ∧ e.ttl = some t' ∧
            (absDiff (t - t')).slt acceptableDurationDiff = true) := by
  obtain ⟨rv, o, raw, hrv, hread, hres, hraw, hfired⟩ := getTTL_exec_ok svc cluster r h
  obtain ⟨w, hwres, hv, hsub, hs⟩ := QuorumEngine.read_quorum hread (by simp [hres])
  have hwv : w.value = some raw := by
    unfold Group.result at hwres
    cases hwv : w.value <;> simp only [hwv, hres, Except.ok.injEq, reduceCtorEq] at hwres
    rw [hwres]
  have hheld : ∀ b ∈ w.members, (ds.headD .reliable).faulty b = false ∧ ∃ e, fleet b r.key = some e ∧
      (Value.duration e.ttl = raw ∨ durationComparer raw (.duration e.ttl) = .ok true) := by
    intro b hb
    have hans := hs.answered b hb
    rw [hwv] at hans
    obtain ⟨v, hbv, hacc⟩ := hans
    obtain ⟨e, he, rfl⟩ := QuorumEngine.answer_ok hbv
    exact ⟨QuorumEngine.faulty_of_answer hbv (by simp), e, he, hacc⟩
  obtain ⟨b₀, hb₀⟩ := List.exists_mem_of_ne_nil _ hs.nonempty
  obtain rfl : raw = .duration resp.ttl := hraw.resolve_left fun hnil => by
    obtain ⟨-, e, -, hacc⟩ := hheld b₀ hb₀
    simp [hnil, durationComparer, pure, Except.pure] at hacc
  refine ⟨rv, o, w.members, hrv, hread, hres, hfired, hv, hs.nonempty, hsub, fun b hb => ?_⟩
  obtain ⟨hf, e, he, hacc⟩ := hheld b hb
  refine ⟨hf, e, he, ?_⟩
  rcases hacc with hacc | hacc
  · exact .inl (Value.duration.inj hacc)
  · exact .inr (durationComparer_accepts hacc)

/-- Whatever a GetTTL returns, at least the view's votes of its backends, distinct when the view
lists each backend once and none of them failed, held the key with that TTL or with one less than `acceptableDurationDiff` from it in 64-bit
arithmetic, and the GetTTL changed no backend. -/
theorem getTTL_quorum_held (r : GetTTLRequest) {resp : GetTTLResponse} {fleet' : Fleet}
    {fired : List Task} (h : (svc.getTTL cluster r).exec ds fleet = .ok (.ok resp, fleet', fired)) :
    fleet' = fleet ∧ ∃ rv winners, cluster.read r.key (svc.readConsistency r.options) = .ok rv ∧
      rv.voteRequired ≤ winners.length ∧ winners ≠ [] ∧ winners.Subperm rv.backends ∧
        (rv.backends.Nodup → winners.Nodup) ∧ ∀ b ∈ winners, (ds.headD .reliable).faulty b = false ∧ ∃ e, fleet b r.key = some e ∧
          (e.ttl = resp.ttl ∨ ∃ t t', resp.ttl = some t ∧ e.ttl = some t' ∧
            (absDiff (t - t')).slt acceptableDurationDiff = true) := by
  obtain ⟨rv, o, winners, hrv, hread, -, -, hv, hne, hsub, hheld⟩ :=
    getTTL_winners_hold svc cluster r h
  exact ⟨QuorumEngine.read_fleet_of_pure (show (ReadOperator.ttl r.key).Pure from rfl) hread,
    rv, winners, hrv, hv, hne, hsub, nodup_of_subperm hsub, hheld⟩

theorem getTTL_on_skewed_trio :
    ∃ fleet' fired, ((CoreService.new []).getTTL trioCluster ⟨"k", {}⟩).exec [] skewedTTLs =
        .ok (.ok ⟨some 10000000000⟩, fleet', fired) ∧
      fleet' = skewedTTLs ∧ ∃ rv winners,
        trioCluster.read "k" ((CoreService.new []).readConsistency {}) = .ok rv ∧
        rv.voteRequired ≤ winners.length ∧ winners ≠ [] ∧ winners.Subperm rv.backends ∧
          (rv.backends.Nodup → winners.Nodup) ∧
          ∀ b ∈ winners, (([] : List Dispatch).headD .reliable).faulty b = false ∧
            ∃ e, skewedTTLs b "k" = some e ∧ (e.ttl = some 10000000000 ∨
              ∃ t t', some 10000000000 = some t ∧ e.ttl = some t' ∧
                (absDiff (t - t')).slt acceptableDurationDiff = true) :=
  ⟨_, _, rfl, getTTL_quorum_held (CoreService.new []) trioCluster ⟨"k", {}⟩ rfl⟩

/-- A GetTTL that answers that the key does not expire read it from a backend holding it without
expiration and changed no backend; it fired one repair, and that repair panics wherever it runs:
the winning value is the nil pointer, which GetTTL's repair dereferences. -/
theorem getTTL_repair_panics (r : GetTTLRequest) {fleet' : Fleet} {fired : List Task}
    (h : (svc.getTTL cluster r).exec ds fleet = .ok (.ok ⟨none⟩, fleet', fired)) :
    fleet' = fleet ∧
      (∃ b, (ds.headD .reliable).faulty b = false ∧ ∃ e, fleet b r.key = some e ∧ e.ttl = none) ∧
      (∃ a, fired = [.repair (.getTTL r.key) a]) ∧ ∀ f, settle fired f = .error .nilDereference := by
  obtain ⟨rv, o, winners, -, hread, hres, rfl, -, hne, -, hheld⟩ :=
    getTTL_winners_hold svc cluster r h
  obtain ⟨a, ha, hval, herr⟩ := QuorumEngine.read_ok_args hread hres
  obtain ⟨b, hb⟩ := List.exists_mem_of_ne_nil winners hne
  obtain ⟨hf, e, he, hnone⟩ := hheld b hb
  refine ⟨QuorumEngine.read_fleet_of_pure (show (ReadOperator.ttl r.key).Pure from rfl) hread,
    ⟨b, hf, e, he, hnone.resolve_right fun ⟨_, _, ht, _⟩ => nomatch ht⟩, ⟨a, by rw [ha]; rfl⟩,
    fun f => ?_⟩
  simp [ha, settle, Task.prog, RepairOperator.run, getTTLRepair, herr, hval, Value.asDuration, deref,
    Except.map]

theorem getTTL_repair_panics_solo :
    ∃ fleet' fired,
      ((CoreService.new []).getTTL soloCluster ⟨"k", {}⟩).exec [] heldOnA =
        .ok (.ok ⟨none⟩, fleet', fired) ∧
      fleet' = heldOnA ∧
      (∃ b, (([] : List Dispatch).headD .reliable).faulty b = false ∧
        ∃ e, heldOnA b "k" = some e ∧ e.ttl = none) ∧
      (∃ a, fired = [.repair (.getTTL "k") a]) ∧ ∀ f, settle fired f = .error .nilDereference :=
  ⟨_, _, rfl, getTTL_repair_panics (CoreService.new []) soloCluster ⟨"k", {}⟩ rfl⟩

end Requests

end KeyValueStore
