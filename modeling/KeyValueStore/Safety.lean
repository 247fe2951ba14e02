import KeyValueStore.EngineReads
import KeyValueStore.Rollback
import KeyValueStore.Comparers

set_option autoImplicit false

/-!
# Nil dereferences on keys without expiration

`Backend.TTL` reports a key without expiration as a nil `*time.Duration`, which the TTL
operators return boxed in an `interface{}`. The box is not `nil`, so the guards `x == nil` of
`durationComparer`, `ttlValue != nil` of Get's repair and `args.Value != nil` of the other
repairs all let it through to a dereference. Whenever two such replies, or one and a duration,
meet in the engine's count, the comparer panics; whenever a repair's TTL read or GetTTL's
winner is that nil pointer, the repair panics.
-/

namespace KeyValueStore

open QuorumEngine

/-- A reply to a TTL read: a duration, or an error. -/
def TTLReply (r : Reply) : Prop :=
  ∀ v, r.2 = .ok v → ∃ p, v = .duration p

/-- Every group a value formed was formed by a non-nil duration. -/
def DurationReps (G : List Group) : Prop :=
  ∀ g ∈ G, ∀ rep, g.value = some rep → ∃ t, rep = .duration (some t)

theorem durationComparer_nil_left (q : Option Duration) :
    durationComparer (.duration none) (.duration q) = .error .nilDereference := rfl

theorem durationComparer_nil_right (t : Duration) :
    durationComparer (.duration (some t)) (.duration none) = .error .nilDereference := rfl

theorem durationReps_countValue {b : Backend} {t : Duration} {G G' : List Group}
    (hG : DurationReps G) (h : countValue durationComparer b (.duration (some t)) G = .ok G') :
    DurationReps G' := by
  intro g' hg' rep hrep
  rcases countValue_values durationComparer h g' hg' with hv | ⟨g, hg, hv⟩
  · rw [hv] at hrep; cases hrep; exact ⟨t, rfl⟩
  · exact hG g hg rep (hv ▸ hrep)

theorem durationReps_countNotFound {b : Backend} {G : List Group} (hG : DurationReps G) :
    DurationReps (countNotFound b G) := by
  intro g' hg' rep hrep
  rcases countNotFound_values b G g' hg' with hv | hg
  · rw [hv] at hrep; cases hrep
  · exact hG g' hg rep hrep

theorem countValue_durations_ok (b : Backend) (t : Duration) :
    ∀ G, DurationReps G → ∃ G', countValue durationComparer b (.duration (some t)) G = .ok G'
  | [], _ => ⟨_, rfl⟩
  | g :: gs, hG => by
    obtain ⟨gs', hgs⟩ := countValue_durations_ok b t gs (fun g hg => hG g (List.mem_cons_of_mem _ hg))
    cases hg : g.value with
    | none => exact ⟨g :: gs', by simp [countValue, hg, hgs, Functor.map, Except.map]⟩
    | some rep =>
      obtain ⟨t', rfl⟩ := hG g (List.mem_cons_self _ _) rep hg
      cases hc : durationComparer (.duration (some t')) (.duration (some t)) with
      | error p => simp [durationComparer_some] at hc
      | ok accept =>
        cases accept
        · exact ⟨g :: gs', by simp [countValue, hg, hc, hgs, bind, Except.bind, Functor.map, Except.map]⟩
        · exact ⟨{ g with members := g.members ++ [b] } :: gs,
            by simp [countValue, hg, hc, bind, Except.bind, pure, Except.pure]⟩

theorem nilTTL_tail {b : Backend} {r : Except Error Value} {rs : List Reply}
    (hnil : ∃ b', (b', .ok (.duration none)) ∈ (b, r) :: rs) (hr : r ≠ .ok (.duration none)) :
    ∃ b', (b', .ok (.duration none)) ∈ rs := by
  obtain ⟨b', hb'⟩ := hnil
  rcases List.mem_cons.mp hb' with he | hb'
  · cases he; exact absurd rfl hr
  · exact ⟨b', hb'⟩

theorem count_meets_nil (t : Duration) : ∀ (rs : List Reply) (G : List Group),
    DurationReps G → firstRep G = some (.duration (some t)) → (∀ r ∈ rs, TTLReply r) →
      (∃ b, (b, .ok (.duration none)) ∈ rs) → count durationComparer G rs = .error .nilDereference
  | [], _, _, _, _, ⟨_, hb⟩ => by cases hb
  | (b, r) :: rs, G, hG, hfirst, hrs, hnil => by
    have tail := fun G' hG' hfirst' hnil' =>
      count_meets_nil t rs G' hG' hfirst' (fun r hr => hrs r (List.mem_cons_of_mem _ hr)) hnil'
    cases r with
    | ok v =>
      obtain ⟨p, rfl⟩ := hrs (b, .ok v) (List.mem_cons_self _ _) v rfl
      rw [count_cons_ok]
      cases p with
      | none =>
        rw [countValue_error durationComparer (durationComparer_nil_right t) G hfirst]
        rfl
      | some t' =>
        obtain ⟨G', hG'⟩ := countValue_durations_ok b t' G hG
        rw [hG']
        exact tail G' (durationReps_countValue hG hG')
          (countValue_firstRep durationComparer G G' hfirst hG') (nilTTL_tail hnil (by simp))
    | error e =>
      have hnil' := nilTTL_tail hnil (by simp)
      cases e
      case notFound =>
        exact tail _ (durationReps_countNotFound hG)
          ((countNotFound_firstRep b G).trans hfirst) hnil'
      all_goals exact tail G hG hfirst hnil'

theorem count_after_nil : ∀ (rs : List Reply) (G : List Group),
    firstRep G = some (.duration none) → (∀ r ∈ rs, TTLReply r) → (∃ r ∈ rs, r.2.toBool) →
      count durationComparer G rs = .error .nilDereference
  | [], _, _, _, ⟨_, hr, _⟩ => by cases hr
  | (b, r) :: rs, G, hfirst, hrs, hok => by
    cases r with
    | ok v =>
      obtain ⟨p, rfl⟩ := hrs (b, .ok v) (List.mem_cons_self _ _) v rfl
      rw [count_cons_ok, countValue_error durationComparer (durationComparer_nil_left p) G hfirst]
      rfl
    | error e =>
      have hok' : ∃ r ∈ rs, r.2.toBool := by
        obtain ⟨r', hr', hb⟩ := hok
        rcases List.mem_cons.mp hr' with rfl | hr'
        · cases hb
        · exact ⟨r', hr', hb⟩
      have tail := fun G' hfirst' =>
        count_after_nil rs G' hfirst' (fun r hr => hrs r (List.mem_cons_of_mem _ hr)) hok'
      cases e
      case notFound => exact tail _ ((countNotFound_firstRep b G).trans hfirst)
      all_goals exact tail G hfirst

theorem firstRep_eq_none : ∀ G : List Group, firstRep G = none → ∀ g ∈ G, g.value = none
  | [], _ => by simp
  | g :: gs, h => by
    cases hg : g.value with
    | none =>
      simp only [firstRep, hg] at h
      exact List.forall_mem_cons.mpr ⟨hg, firstRep_eq_none gs h⟩
    | some v => simp [firstRep, hg] at h

theorem count_ttl_panics : ∀ (rs : List Reply) (G : List Group),
    firstRep G = none → (∀ r ∈ rs, TTLReply r) → 2 ≤ rs.countP (·.2.toBool) →
      (∃ b, (b, .ok (.duration none)) ∈ rs) → count durationComparer G rs = .error .nilDereference
  | [], _, _, _, h2, _ => by simp at h2
  | (b, r) :: rs, G, hfirst, hrs, h2, hnil => by
    have hrs' : ∀ r ∈ rs, TTLReply r := fun r hr => hrs r (List.mem_cons_of_mem _ hr)
    cases r with
    | ok v =>
      obtain ⟨p, rfl⟩ := hrs (b, .ok v) (List.mem_cons_self _ _) v rfl
      have h1 : 0 < rs.countP (·.2.toBool) := by
        rw [List.countP_cons_of_pos _ _ rfl] at h2; omega
      rw [count_cons_ok]
      obtain ⟨G', hG', hfirst'⟩ := countValue_first durationComparer b
        (.duration p) G hfirst
      rw [hG']
      cases p with
      | none =>
        obtain ⟨r, hr, hb⟩ := List.countP_pos_iff.mp h1
        exact count_after_nil rs G' hfirst' hrs' ⟨r, hr, hb⟩
      | some t =>
        have hreps : DurationReps G' := by
          intro g hg rep hrep
          rcases countValue_values durationComparer hG' g hg with hv | ⟨g₀, hg₀, hv⟩
          · rw [hv] at hrep; cases hrep; exact ⟨t, rfl⟩
          · rw [hv, firstRep_eq_none G hfirst g₀ hg₀] at hrep; cases hrep
        exact count_meets_nil t rs G' hreps hfirst' hrs' (nilTTL_tail hnil (by simp))
    | error e =>
      have h2' : 2 ≤ rs.countP (·.2.toBool) := by
        rwa [List.countP_cons_of_neg _ _ (by simp [Except.toBool])] at h2
      have hnil' := nilTTL_tail hnil (by simp)
      cases e
      case notFound =>
        exact count_ttl_panics rs _ ((countNotFound_firstRep b G).trans hfirst) hrs' h2' hnil'
      all_goals exact count_ttl_panics rs G hfirst hrs' h2' hnil'

theorem answer_ttl {d : Dispatch} {fleet : Fleet} {b : Backend} {key : Key} {e : Entry}
    (hf : d.faulty b = false) (he : fleet b key = some e) :
    answer (.ttl key) d fleet b = .ok (.duration e.ttl) := by
  simp [answer, hf, ReadOperator.run, Store.ttl, he, Except.map]

section TTLRead

variable (fleet : Fleet) (d : Dispatch) (nodes : List Backend) (key : Key)

/-- Every node answers and holds the key; one of them holds it without expiration. -/
structure Unexpiring : Prop where
  answers : ∀ b ∈ nodes, d.faulty b = false ∧ (fleet b key).isSome
  unexpiring : ∃ b ∈ nodes, ∃ e, fleet b key = some e ∧ e.ttl = none

variable {fleet d nodes key}

/-- A TTL read of two holders or more, one without expiration, panics in the comparer. -/
theorem read_ttl_panics (h : Unexpiring fleet d nodes key) (htwo : 2 ≤ nodes.length)
    (votes : Nat) (mode : VotingMode) :
    QuorumEngine.read fleet d nodes votes (.ttl key) durationComparer mode =
      .error .nilDereference := by
  have hreply : ∀ b ∈ nodes, ∃ e : Entry, answer (.ttl key) d fleet b = .ok (.duration e.ttl) := by
    intro b hb
    obtain ⟨hf, hsome⟩ := h.answers b hb
    obtain ⟨e, he⟩ := Option.isSome_iff_exists.mp hsome
    exact ⟨e, answer_ttl hf he⟩
  have hperm := arrive_perm d (nodes.map fun b => (b, answer (.ttl key) d fleet b))
  have hcount : count durationComparer [] (arrive d (nodes.map fun b =>
      (b, answer (.ttl key) d fleet b))) = .error .nilDereference := by
    refine count_ttl_panics _ [] rfl ?_ ?_ ?_
    · intro r hr v hv
      obtain ⟨b, hb, rfl⟩ := mem_arrive_answers hr
      obtain ⟨e, he⟩ := hreply b hb
      rw [he] at hv
      cases hv
      exact ⟨_, rfl⟩
    · rw [hperm.countP_eq, List.countP_map, List.countP_eq_length.mpr]
      · exact htwo
      · intro b hb
        obtain ⟨e, he⟩ := hreply b hb
        simp [he, Except.toBool]
    · obtain ⟨b, hb, e, he, hnone⟩ := h.unexpiring
      refine ⟨b, hperm.mem_iff.mpr (List.mem_map.mpr ⟨b, hb, ?_⟩)⟩
      rw [answer_ttl (h.answers b hb).1 he, hnone]
  simp only [QuorumEngine.read, dispatchRead_eq, hcount]
  rfl

theorem read_ttl_single {b : Backend} (h : Unexpiring fleet d [b] key) {votes : Nat}
    (hvotes : votes ≤ 1) (mode : VotingMode) :
    QuorumEngine.read fleet d [b] votes (.ttl key) durationComparer mode =
      .ok (⟨.ok (.duration none), some ⟨.duration none, none, [b], []⟩⟩, fleet) := by
  obtain ⟨c, hc, e, he, hnone⟩ := h.unexpiring
  rw [List.mem_singleton] at hc
  subst hc
  simp only [QuorumEngine.read, dispatchRead_eq, List.map_singleton,
    answer_ttl (h.answers c (List.mem_singleton_self _)).1 he, hnone]
  simp [arrive, count, countValue, bind, Except.bind, pure, Except.pure, ReadOperator.run,
    verdict_single, candidate, hvotes, Group.result]

theorem read_ttl_unexpiring (h : Unexpiring fleet d nodes key) (mode : VotingMode) :
    QuorumEngine.read fleet d nodes (majority nodes.length) (.ttl key) durationComparer mode =
        .error .nilDereference ∨
      ∃ o, QuorumEngine.read fleet d nodes (majority nodes.length) (.ttl key) durationComparer
        mode = .ok (o, fleet) ∧ o.result = .ok (.duration none) :=
  match nodes, h with
  | [], h => absurd h.unexpiring (by simp)
  | [_], h => .inr ⟨_, read_ttl_single h (show majority 1 ≤ 1 from le_rfl) mode, rfl⟩
  | _ :: _ :: _, h => .inl (read_ttl_panics h (by simp) _ mode)

end TTLRead

/-- GetTTL panics when two backends of its view or more answer, all holding the key and one
without expiration: the comparer dereferences the nil pointer. -/
theorem getTTL_panics (svc : CoreService) (cluster : Cluster) (request : GetTTLRequest)
    {view : ReadView} (hview : cluster.read request.key (svc.readConsistency request.options) = .ok view)
    {ds : List Dispatch} {fleet : Fleet}
    (h : Unexpiring fleet (ds.headD .reliable) view.backends request.key)
    (htwo : 2 ≤ view.backends.length) :
    (svc.getTTL cluster request).exec ds fleet = .error .nilDereference := by
  simp only [CoreService.getTTL, CoreService.performRead, hview, Engine.read, Prog.bind_eq,
    Prog.read_bind, Prog.exec_read, read_ttl_panics h htwo]
  rfl

/-- `a` holds `"k"` without expiration, `b` holds it for five more seconds. -/
def heldMixed : Fleet := fun b key =>
  if key = "k" then some ⟨[0], if b = replicaA then none else some 5000000000⟩ else none

theorem getTTL_panics_on_mixed_expirations :
    ((CoreService.new []).getTTL pairCluster ⟨"k", {}⟩).exec [] heldMixed = .error .nilDereference :=
  getTTL_panics _ _ _ rfl ⟨by decide, replicaA, by simp, _, rfl, rfl⟩ (by decide)

/-- The repairs of Get, Exists and Expire read the winners' TTL and dereference it: when a
winner holds the key without expiration, the repair panics. -/
theorem valueRepair_panics {op : RepairOperator} {key : Key}
    (hop : op = .get key ∨ op = .expire key ∨ op = .exists key) {args : RepairArgs}
    (herr : args.err ≠ some .notFound) (hvalue : args.value ≠ .nil) {ds : List Dispatch}
    {fleet : Fleet} (h : Unexpiring fleet (ds.headD .reliable) args.winners key) :
    (op.run args).exec ds fleet = .error .nilDereference := by
  have hnil : Value.duration none ≠ .nil := by simp
  rcases read_ttl_unexpiring h .skipVoteOnNotFound with hread | ⟨o, hread, hres⟩
  · -- the comparer panics
    rcases hop with rfl | rfl | rfl <;>
    simp only [RepairOperator.run, getRepair, existenceRepair, herr, hvalue, if_false, Engine.read,
      Prog.bind_eq, Prog.read_bind, Prog.ret_bind, Prog.exec_read, hread] <;> rfl
  · -- the read returns the nil pointer, and the repair dereferences it
    rcases hop with rfl | rfl | rfl <;>
    simp only [RepairOperator.run, getRepair, existenceRepair, herr, hvalue, if_false, Engine.read,
      Prog.bind_eq, Prog.read_bind, Prog.ret_bind, Prog.exec_read, hread] <;>
    simp [hres, hnil, bind, Except.bind]

theorem getRepair_panics_on_unexpiring_winner :
    ((RepairOperator.get "k").run ⟨.bytes [0], none, [replicaA], []⟩).exec [] heldOnA =
      .error .nilDereference :=
  valueRepair_panics (.inl rfl) (by decide) (by decide) ⟨by decide, replicaA, by simp, _, rfl, rfl⟩

def soloCluster : Cluster where
  read _ _ := .ok ⟨[replicaA], 1, .voteOnNotFound⟩
  write _ _ := .ok ⟨[replicaA], 1⟩
  flushDB := .ok ⟨[replicaA], 1⟩

/-- Both replicas hold `"k"` without expiration. -/
def heldOnBoth : Fleet := fun _ key => if key = "k" then some ⟨[0], none⟩ else none

/-- GetTTL of `"k"` panics in the comparer, and so does the repair Get of `"k"` fires. -/
theorem unexpiring_key_panics :
    ((CoreService.new []).getTTL pairCluster ⟨"k", {}⟩).exec [] heldOnBoth =
      .error .nilDereference ∧
    (((CoreService.new []).get pairCluster ⟨"k", {}⟩).exec [] heldOnBoth >>=
      fun r => settle r.2.2 r.2.1) = .error .nilDereference :=
  ⟨rfl, rfl⟩

end KeyValueStore
