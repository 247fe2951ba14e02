import KeyValueStore.Engine

set_option autoImplicit false

/-!
# What an engine read sees and decides

A read operator's call is idempotent: calling it twice on a store answers the same and leaves
the store as once. So a dispatch answers every node from the fleet as it was, duplicates
included. The count then puts equal replies in one group, and the verdict makes the largest
candidate group the winners and every other counted backend a loser.
-/

namespace KeyValueStore

namespace ReadOperator

theorem run_idem (operator : ReadOperator) (s : Store) :
    operator.run (operator.run s).2 = operator.run s := by
  cases operator with
  | expire key expiration => cases h : s key <;> simp [run, Store.expire, h]
  | _ => rfl

/-- `Get`, `TTL` and `Exists` leave the store as it was. -/
def Pure : ReadOperator → Bool
  | .expire _ _ => false
  | _ => true

theorem run_store_of_pure {operator : ReadOperator} (h : operator.Pure) (s : Store) :
    (operator.run s).2 = s := by
  cases operator <;> first | rfl | cases h

end ReadOperator

namespace QuorumEngine

variable (operator : ReadOperator) (d : Dispatch)

/-- What a node answers to one dispatch, from its store. -/
def answer (fleet : Fleet) (b : Backend) : Except Error Value :=
  if d.faulty b then .error .internal else (operator.run (fleet b)).1

theorem dispatchRead_eq : ∀ (nodes : List Backend) (fleet : Fleet),
    dispatchRead operator d nodes fleet =
      (nodes.map (fun b => (b, answer operator d fleet b)),
        fun b => if b ∈ nodes ∧ d.faulty b = false then (operator.run (fleet b)).2 else fleet b)
  | [], fleet => rfl
  | b :: bs, fleet => by
    have hans : ∀ c, answer operator d (Function.update fleet b
        (if d.faulty b then fleet b else (operator.run (fleet b)).2)) c = answer operator d fleet c := by
      intro c
      by_cases hc : c = b
      · subst hc; cases hf : d.faulty c <;> simp [answer, hf, ReadOperator.run_idem]
      · simp [answer, hc]
    have hrun : dispatchRead operator d (b :: bs) fleet =
        ((b, answer operator d fleet b) :: (dispatchRead operator d bs (Function.update fleet b
          (if d.faulty b then fleet b else (operator.run (fleet b)).2))).1,
          (dispatchRead operator d bs (Function.update fleet b
          (if d.faulty b then fleet b else (operator.run (fleet b)).2))).2) := by
      simp only [dispatchRead, answer]
      split <;> rfl
    rw [hrun, dispatchRead_eq bs]
    refine Prod.ext (by simp [hans]) (funext fun c => ?_)
    by_cases hc : c = b
    · subst hc
      cases hf : d.faulty c <;> by_cases hm : c ∈ bs <;> simp [hf, hm, ReadOperator.run_idem]
    · cases hf : d.faulty b <;> simp [hc, hf]

theorem dispatchRead_fleet_of_pure (h : operator.Pure) (nodes : List Backend) (fleet : Fleet) :
    (dispatchRead operator d nodes fleet).2 = fleet := by
  rw [dispatchRead_eq]
  funext b
  simp [ReadOperator.run_store_of_pure h]

theorem arrive_perm (replies : List Reply) : (arrive d replies).Perm replies :=
  List.perm_insertionSort _ _

theorem mem_arrive_answers {operator : ReadOperator} {d : Dispatch} {fleet : Fleet}
    {nodes : List Backend} {r : Reply}
    (hr : r ∈ arrive d (nodes.map fun b => (b, answer operator d fleet b))) :
    ∃ b ∈ nodes, r = (b, answer operator d fleet b) := by
  obtain ⟨b, hb, rfl⟩ := List.mem_map.mp ((arrive_perm d _).mem_iff.mp hr)
  exact ⟨b, hb, rfl⟩

variable (cmp : ValueComparer)

def Uncounted (r : Reply) : Prop :=
  ∃ e, r.2 = .error e ∧ e ≠ .notFound

theorem count_cons_ok (G : List Group) (b : Backend) (v : Value) (rs : List Reply) :
    count cmp G ((b, .ok v) :: rs) = countValue cmp b v G >>= (count cmp · rs) := rfl

theorem count_cons_uncounted (G : List Group) (r : Reply) (rs : List Reply) (h : Uncounted r) :
    count cmp G (r :: rs) = count cmp G rs := by
  obtain ⟨b, reply⟩ := r
  obtain ⟨e, he, hne⟩ := h
  cases he
  cases e <;> first | exact absurd rfl hne | rfl

theorem count_accepted (x : Value) : ∀ (rs : List Reply) (ms : List Backend),
    (∀ r ∈ rs, ∃ v, r.2 = .ok v ∧ cmp x v = .ok true) →
      count cmp [⟨some x, ms⟩] rs = .ok [⟨some x, ms ++ rs.map Prod.fst⟩]
  | [], ms, _ => by simp [count]
  | (b, r) :: rs, ms, h => by
    obtain ⟨v, hv, hcmp⟩ := h (b, r) (List.mem_cons_self _ _)
    cases hv
    rw [count_cons_ok]
    simp only [countValue, hcmp, bind, Except.bind, if_true, pure, Except.pure]
    rw [count_accepted x rs (ms ++ [b]) (fun r hr => h r (List.mem_cons_of_mem _ hr))]
    simp

theorem count_notFound : ∀ (rs : List Reply) (ms : List Backend),
    (∀ r ∈ rs, r.2 = .error .notFound) →
      count cmp [⟨none, ms⟩] rs = .ok [⟨none, ms ++ rs.map Prod.fst⟩]
  | [], ms, _ => by simp [count]
  | (b, r) :: rs, ms, h => by
    have hr : r = .error .notFound := h (b, r) (List.mem_cons_self _ _)
    cases hr
    simp only [count, countNotFound, if_true]
    rw [count_notFound rs (ms ++ [b]) (fun r hr => h r (List.mem_cons_of_mem _ hr))]
    simp

theorem count_same (x : Value) (hx : cmp x x = .ok true) : ∀ (rs : List Reply) (G : List Group),
    (G = [] ∨ ∃ ms, G = [⟨some x, ms⟩]) → (∀ r ∈ rs, r.2 = .ok x ∨ Uncounted r) →
      ∃ G', count cmp G rs = .ok G' ∧ (G' = [] ∨ ∃ ms, G' = [⟨some x, ms⟩])
  | [], G, hG, _ => ⟨G, rfl, hG⟩
  | (b, r) :: rs, G, hG, h => by
    have tail := fun G' hG' => count_same x hx rs G' hG' (fun r hr => h r (List.mem_cons_of_mem _ hr))
    rcases h (b, r) (List.mem_cons_self _ _) with hr | hr
    · cases hr
      rw [count_cons_ok]
      rcases hG with rfl | ⟨ms, rfl⟩
      · exact tail _ (.inr ⟨[b], rfl⟩)
      · simp only [countValue, hx, bind, Except.bind, if_true, pure, Except.pure]
        exact tail _ (.inr ⟨ms ++ [b], rfl⟩)
    · rw [count_cons_uncounted cmp G _ rs hr]
      exact tail G hG

/-- The value of the first value group, which every new value is compared with first. -/
def firstRep : List Group → Option Value
  | [] => none
  | g :: gs =>
    match g.value with
    | some v => some v
    | none => firstRep gs

theorem countValue_error {b : Backend} {v r : Value} {p : Panic} (hc : cmp r v = .error p) :
    ∀ G, firstRep G = some r → countValue cmp b v G = .error p
  | [], h => by cases h
  | g :: gs, h => by
    cases hg : g.value with
    | none =>
      simp only [firstRep, hg] at h
      simp [countValue, hg, countValue_error hc gs h, Functor.map, Except.map]
    | some rep =>
      simp only [firstRep, hg, Option.some.injEq] at h
      subst h
      simp [countValue, hg, hc, bind, Except.bind]

theorem countValue_firstRep {b : Backend} {v r : Value} :
    ∀ G G', firstRep G = some r → countValue cmp b v G = .ok G' → firstRep G' = some r
  | [], _, h, _ => by cases h
  | g :: gs, G', h, hG => by
    cases hg : g.value with
    | none =>
      simp only [firstRep, hg] at h
      simp only [countValue, hg] at hG
      cases hrest : countValue cmp b v gs with
      | error p => simp [hrest, Functor.map, Except.map] at hG
      | ok gs' =>
        simp only [hrest, Functor.map, Except.map, Except.ok.injEq] at hG
        subst hG
        simp [firstRep, hg, countValue_firstRep gs gs' h hrest]
    | some rep =>
      simp only [firstRep, hg, Option.some.injEq] at h
      subst h
      simp only [countValue, hg, bind, Except.bind] at hG
      cases hc : cmp rep v with
      | error p => simp [hc] at hG
      | ok accept =>
        cases accept <;> simp only [hc, if_true, Bool.false_eq_true, if_false, pure,
          Except.pure, Except.ok.injEq, Functor.map, Except.map] at hG
        · split at hG
          · cases hG
          · cases hG; simp [firstRep, hg]
        · cases hG; simp [firstRep]

theorem countNotFound_values (b : Backend) :
    ∀ G, ∀ g' ∈ countNotFound b G, g'.value = none ∨ g' ∈ G
  | [] => by simp [countNotFound]
  | g :: gs => by
    intro g' hg'
    simp only [countNotFound] at hg'
    split at hg'
    · rcases List.mem_cons.mp hg' with rfl | hg'
      · exact .inl (by assumption)
      · exact .inr (List.mem_cons_of_mem _ hg')
    · rcases List.mem_cons.mp hg' with rfl | hg'
      · exact .inr (List.mem_cons_self _ _)
      · rcases countNotFound_values b gs g' hg' with h | h
        · exact .inl h
        · exact .inr (List.mem_cons_of_mem _ h)

theorem countNotFound_firstRep (b : Backend) : ∀ G, firstRep (countNotFound b G) = firstRep G
  | [] => rfl
  | g :: gs => by
    simp only [countNotFound]
    split
    · rename_i hg; simp [firstRep, hg]
    · cases hg : g.value with
      | none => simp [firstRep, hg, countNotFound_firstRep b gs]
      | some v => simp [firstRep, hg]

theorem countValue_first (b : Backend) (v : Value) :
    ∀ G, firstRep G = none → ∃ G', countValue cmp b v G = .ok G' ∧ firstRep G' = some v
  | [], _ => ⟨_, rfl, rfl⟩
  | g :: gs, h => by
    cases hg : g.value with
    | none =>
      simp only [firstRep, hg] at h
      obtain ⟨gs', hgs, hfirst⟩ := countValue_first b v gs h
      exact ⟨g :: gs', by simp [countValue, hg, hgs, Functor.map, Except.map],
        by simp [firstRep, hg, hfirst]⟩
    | some rep => simp [firstRep, hg] at h

theorem leader_get (mode : VotingMode) : ∀ (G : List Group) (i : Nat) (w : Group),
    leader mode G = some (i, w) → G[i]? = some w ∧ candidate mode w
  | [], _, _, h => by cases h
  | g :: gs, i, w, h => by
    cases hl : leader mode gs with
    | none =>
      simp only [leader, hl, Option.map_none'] at h
      split at h
      · cases h; simp_all
      · cases h
    | some p =>
      obtain ⟨j, w'⟩ := p
      have hj := leader_get mode gs j w' hl
      simp only [leader, hl, Option.map_some'] at h
      split at h
      · split at h
        · cases h; simpa using hj
        · cases h; simp_all
      · cases h; simpa using hj

theorem verdict_single (votes : Nat) (mode : VotingMode) (g : Group) (hc : candidate mode g = true)
    (hv : votes ≤ g.members.length) :
    verdict votes mode [g] =
      { result := g.result
        args := some
          { value := g.value.getD .nil
            err := if g.value = none then some .notFound else none
            winners := g.members
            losers := [] } } := by
  simp [verdict, leader, hc, hv]

theorem verdict_args {votes : Nat} {mode : VotingMode} {G : List Group} {a : RepairArgs}
    (h : (verdict votes mode G).args = some a) :
    ∃ i w, leader mode G = some (i, w) ∧ votes ≤ w.members.length ∧
      (verdict votes mode G).result = w.result ∧
      a = { value := w.value.getD .nil
            err := if w.value = none then some .notFound else none
            winners := w.members
            losers := (G.eraseIdx i).flatMap Group.members } := by
  unfold verdict at h ⊢
  split at h
  · rename_i i w hl
    split at h
    · cases h
      exact ⟨i, w, hl, by assumption, by simp [*], rfl⟩
    · cases h
  · cases h

theorem countValue_cases {b : Backend} {v : Value} : ∀ {G G' : List Group},
    countValue cmp b v G = .ok G' →
      (∃ pre g post rep, G = pre ++ g :: post ∧ g.value = some rep ∧ cmp rep v = .ok true ∧
        G' = pre ++ { g with members := g.members ++ [b] } :: post) ∨ G' = G ++ [⟨some v, [b]⟩]
  | [], G', h => by simp only [countValue, Except.ok.injEq] at h; exact .inr h.symm
  | g :: gs, G', h => by
    have skip : ∀ gs', countValue cmp b v gs = .ok gs' → G' = g :: gs' →
        (∃ pre g₀ post rep, g :: gs = pre ++ g₀ :: post ∧ g₀.value = some rep ∧
          cmp rep v = .ok true ∧ G' = pre ++ { g₀ with members := g₀.members ++ [b] } :: post) ∨
        G' = g :: gs ++ [⟨some v, [b]⟩] := by
      rintro gs' hgs rfl
      rcases countValue_cases hgs with ⟨pre, g₀, post, rep, rfl, hv, hc, rfl⟩ | rfl
      · exact .inl ⟨g :: pre, g₀, post, rep, rfl, hv, hc, rfl⟩
      · exact .inr rfl
    cases hg : g.value with
    | none =>
      simp only [countValue, hg] at h
      cases hrest : countValue cmp b v gs with
      | error p => simp [hrest, Functor.map, Except.map] at h
      | ok gs' =>
        simp only [hrest, Functor.map, Except.map, Except.ok.injEq] at h
        exact skip gs' hrest h.symm
    | some rep =>
      simp only [countValue, hg, bind, Except.bind] at h
      cases hc : cmp rep v with
      | error p => simp [hc] at h
      | ok accept =>
        cases accept
        · simp only [hc, Bool.false_eq_true, if_false] at h
          cases hrest : countValue cmp b v gs with
          | error p => simp [hrest, Functor.map, Except.map] at h
          | ok gs' =>
            simp only [hrest, Functor.map, Except.map, Except.ok.injEq] at h
            exact skip gs' hrest h.symm
        · simp only [hc, if_true, pure, Except.pure, Except.ok.injEq] at h
          exact .inl ⟨[], g, gs, rep, rfl, hg, hc, by rw [← h, hg]; rfl⟩

theorem countValue_values {b : Backend} {v : Value} {G G' : List Group}
    (h : countValue cmp b v G = .ok G') :
    ∀ g' ∈ G', g'.value = some v ∨ ∃ g ∈ G, g'.value = g.value := by
  intro g' hg'
  rcases countValue_cases cmp h with ⟨pre, g, post, rep, rfl, -, -, rfl⟩ | rfl
  · simp only [List.mem_append, List.mem_cons] at hg'
    rcases hg' with hg' | rfl | hg'
    · exact .inr ⟨g', by simp [hg'], rfl⟩
    · exact .inr ⟨g, by simp, rfl⟩
    · exact .inr ⟨g', by simp [hg'], rfl⟩
  · rcases List.mem_append.mp hg' with hg' | hg'
    · exact .inr ⟨g', hg', rfl⟩
    · rw [List.mem_singleton.mp hg']
      exact .inl rfl

theorem countNotFound_cases (b : Backend) : ∀ G : List Group,
    (∃ pre g post, G = pre ++ g :: post ∧ g.value = none ∧
      countNotFound b G = pre ++ { g with members := g.members ++ [b] } :: post) ∨
    countNotFound b G = G ++ [⟨none, [b]⟩]
  | [] => .inr rfl
  | g :: gs => by
    by_cases hg : g.value = none
    · exact .inl ⟨[], g, gs, rfl, hg, by simp [countNotFound, hg]⟩
    · have hstep : countNotFound b (g :: gs) = g :: countNotFound b gs := by
        simp [countNotFound, hg]
      rcases countNotFound_cases b gs with ⟨pre, g₀, post, rfl, hv, h⟩ | h
      · exact .inl ⟨g :: pre, g₀, post, rfl, hv, by rw [hstep, h]; rfl⟩
      · exact .inr (by rw [hstep, h]; rfl)

theorem members_join (pre post : List Group) (g : Group) (b : Backend) :
    ((pre ++ { g with members := g.members ++ [b] } :: post).flatMap Group.members).Perm
      ((pre ++ g :: post).flatMap Group.members ++ [b]) := by
  simpa [List.flatMap_append] using ((List.perm_append_singleton b
    (post.flatMap Group.members)).symm.append_left g.members).append_left (pre.flatMap Group.members)

theorem countValue_members {b : Backend} {v : Value} {G G' : List Group}
    (h : countValue cmp b v G = .ok G') :
    (G'.flatMap Group.members).Perm (G.flatMap Group.members ++ [b]) := by
  rcases countValue_cases cmp h with ⟨pre, g, post, rep, rfl, -, -, rfl⟩ | rfl
  · exact members_join pre post g b
  · simp

theorem countNotFound_members (b : Backend) (G : List Group) :
    ((countNotFound b G).flatMap Group.members).Perm (G.flatMap Group.members ++ [b]) := by
  rcases countNotFound_cases b G with ⟨pre, g, post, rfl, -, h⟩ | h <;> rw [h]
  · exact members_join pre post g b
  · simp

theorem count_members : ∀ {G G' : List Group} {rs : List Reply}, count cmp G rs = .ok G' →
    (∀ r ∈ rs, ¬ Uncounted r) →
      (G'.flatMap Group.members).Perm (G.flatMap Group.members ++ rs.map Prod.fst)
  | G, G', [], h, _ => by simp only [count, Except.ok.injEq] at h; simp [h]
  | G, G', (b, r) :: rs, h, hc => by
    have hc' : ∀ r ∈ rs, ¬ Uncounted r := fun r hr => hc r (List.mem_cons_of_mem _ hr)
    cases r with
    | ok v =>
      rw [count_cons_ok, Except.bind_eq_ok] at h
      obtain ⟨G₁, hG, h⟩ := h
      exact (count_members h hc').trans (by
        simpa using ((countValue_members cmp hG).append_right (rs.map Prod.fst)))
    | error e =>
      cases e
      case notFound =>
        change count cmp (countNotFound b G) rs = .ok G' at h
        exact (count_members h hc').trans (by
          simpa using ((countNotFound_members b G).append_right (rs.map Prod.fst)))
      all_goals exact absurd ⟨_, rfl, by simp⟩ (hc _ (List.mem_cons_self _ _))

theorem count_members_subset : ∀ {G G' : List Group} {rs : List Reply}, count cmp G rs = .ok G' →
    ∀ b ∈ G'.flatMap Group.members, b ∈ G.flatMap Group.members ∨ b ∈ rs.map Prod.fst
  | G, G', [], h, b, hb => by simp only [count, Except.ok.injEq] at h; exact .inl (h ▸ hb)
  | G, G', (c, r) :: rs, h, b, hb => by
    have widen : ∀ G₁, (∀ b ∈ G₁.flatMap Group.members, b ∈ G.flatMap Group.members ∨ b = c) →
        count cmp G₁ rs = .ok G' → b ∈ G.flatMap Group.members ∨ b ∈ ((c, r) :: rs).map Prod.fst := by
      intro G₁ hG₁ h₁
      rcases count_members_subset h₁ b hb with hb | hb
      · rcases hG₁ b hb with hb | rfl
        · exact .inl hb
        · exact .inr (List.mem_cons_self _ _)
      · exact .inr (List.mem_cons_of_mem _ hb)
    cases r with
    | ok v =>
      rw [count_cons_ok, Except.bind_eq_ok] at h
      obtain ⟨G₁, hG, h⟩ := h
      exact widen G₁ (fun b hb => by simpa using (countValue_members cmp hG).subset hb) h
    | error e =>
      cases e
      case notFound =>
        exact widen _ (fun b hb => by simpa using (countNotFound_members c G).subset hb) h
      all_goals
        rw [count_cons_uncounted cmp G _ rs ⟨_, rfl, by simp⟩] at h
        exact widen G (fun b hb => .inl hb) h

theorem count_values_of (Q : Option Value → Prop) : ∀ {G G' : List Group} {rs : List Reply},
    count cmp G rs = .ok G' → (∀ g ∈ G, Q g.value) →
      (∀ r ∈ rs, (∀ v, r.2 = .ok v → Q (some v)) ∧ (r.2 = .error .notFound → Q none)) →
        ∀ g ∈ G', Q g.value
  | G, G', [], h, hG, _ => by simp only [count, Except.ok.injEq] at h; exact h ▸ hG
  | G, G', (c, r) :: rs, h, hG, hrs => by
    have hr := hrs (c, r) (List.mem_cons_self _ _)
    have tail := fun G₁ (h₁ : count cmp G₁ rs = .ok G') hG₁ =>
      count_values_of Q h₁ hG₁ (fun r hr => hrs r (List.mem_cons_of_mem _ hr))
    cases r with
    | ok v =>
      rw [count_cons_ok, Except.bind_eq_ok] at h
      obtain ⟨G₁, hG₁, h⟩ := h
      refine tail G₁ h fun g' hg' => ?_
      rcases countValue_values cmp hG₁ g' hg' with hv | ⟨g, hg, hv⟩
      · exact hv ▸ hr.1 v rfl
      · exact hv ▸ hG g hg
    | error e =>
      cases e
      case notFound =>
        refine tail _ h fun g' hg' => ?_
        rcases countNotFound_values c G g' hg' with hv | hg'
        · exact hv ▸ hr.2 rfl
        · exact hG g' hg'
      all_goals
        rw [count_cons_uncounted cmp G _ rs ⟨_, rfl, by simp⟩] at h
        exact tail G h hG

/-- A group as the count builds it: it has a member, and each member answered `ErrNotFound` (the
`ErrNotFound` group) or the group's value or a value the group's value accepts. -/
structure Sound (ans : Backend → Except Error Value) (g : Group) : Prop where
  nonempty : g.members ≠ []
  answered : ∀ b ∈ g.members, match g.value with
    | none => ans b = .error .notFound
    | some rep => ∃ v, ans b = .ok v ∧ (v = rep ∨ cmp rep v = .ok true)

variable {cmp} {ans : Backend → Except Error Value}

theorem sound_join {g : Group} {b : Backend} (hg : Sound cmp ans g)
    (hb : match g.value with
      | none => ans b = .error .notFound
      | some rep => ∃ v, ans b = .ok v ∧ (v = rep ∨ cmp rep v = .ok true)) :
    Sound cmp ans { g with members := g.members ++ [b] } := by
  refine ⟨by simp, fun c hc => ?_⟩
  rcases List.mem_append.mp hc with hc | hc
  · exact hg.answered c hc
  · rw [List.mem_singleton.mp hc]; exact hb

theorem sound_of_cases {G G' : List Group} (b : Backend) (new : Group) (hnew : Sound cmp ans new)
    (h : (∃ pre g post, G = pre ++ g :: post ∧ Sound cmp ans { g with members := g.members ++ [b] } ∧
        G' = pre ++ { g with members := g.members ++ [b] } :: post) ∨ G' = G ++ [new])
    (hG : ∀ g ∈ G, Sound cmp ans g) : ∀ g ∈ G', Sound cmp ans g := by
  rcases h with ⟨pre, g, post, rfl, hjoin, rfl⟩ | rfl
  · intro g' hg'
    simp only [List.mem_append, List.mem_cons] at hg'
    rcases hg' with hg' | rfl | hg'
    · exact hG g' (by simp [hg'])
    · exact hjoin
    · exact hG g' (by simp [hg'])
  · intro g' hg'
    rcases List.mem_append.mp hg' with hg' | hg'
    · exact hG g' hg'
    · rw [List.mem_singleton.mp hg']; exact hnew

theorem countValue_sound {b : Backend} {v : Value} {G G' : List Group} (hb : ans b = .ok v)
    (h : countValue cmp b v G = .ok G') (hG : ∀ g ∈ G, Sound cmp ans g) :
    ∀ g ∈ G', Sound cmp ans g := by
  refine sound_of_cases b ⟨some v, [b]⟩ ⟨by simp, fun c hc => ?_⟩ ?_ hG
  · rw [List.mem_singleton.mp hc]; exact ⟨v, hb, .inl rfl⟩
  · rcases countValue_cases cmp h with ⟨pre, g, post, rep, rfl, hv, hc, rfl⟩ | rfl
    · exact .inl ⟨pre, g, post, rfl,
        sound_join (hG g (by simp)) (by rw [hv]; exact ⟨v, hb, .inr hc⟩), rfl⟩
    · exact .inr rfl

theorem countNotFound_sound {b : Backend} {G : List Group} (hb : ans b = .error .notFound)
    (hG : ∀ g ∈ G, Sound cmp ans g) : ∀ g ∈ countNotFound b G, Sound cmp ans g := by
  refine sound_of_cases b ⟨none, [b]⟩ ⟨by simp, fun c hc => ?_⟩ ?_ hG
  · rw [List.mem_singleton.mp hc]; exact hb
  · rcases countNotFound_cases b G with ⟨pre, g, post, rfl, hv, h⟩ | h
    · exact .inl ⟨pre, g, post, rfl, sound_join (hG g (by simp)) (by rw [hv]; exact hb), h⟩
    · exact .inr h

/-- Counting replies that are the nodes' answers keeps every group sound. -/
theorem count_sound : ∀ {G G' : List Group} {rs : List Reply}, count cmp G rs = .ok G' →
    (∀ r ∈ rs, r.2 = ans r.1) → (∀ g ∈ G, Sound cmp ans g) → ∀ g ∈ G', Sound cmp ans g
  | G, G', [], h, _, hG => by simp only [count, Except.ok.injEq] at h; exact h ▸ hG
  | G, G', (b, r) :: rs, h, hrs, hG => by
    have hrs' : ∀ r ∈ rs, r.2 = ans r.1 := fun r hr => hrs r (List.mem_cons_of_mem _ hr)
    have hb : r = ans b := hrs (b, r) (List.mem_cons_self _ _)
    cases r with
    | ok v =>
      rw [count_cons_ok, Except.bind_eq_ok] at h
      obtain ⟨G₁, hG₁, h⟩ := h
      exact count_sound h hrs' (countValue_sound hb.symm hG₁ hG)
    | error e =>
      cases e
      case notFound =>
        change count cmp (countNotFound b G) rs = .ok G' at h
        exact count_sound h hrs' (countNotFound_sound hb.symm hG)
      all_goals
        change count cmp G rs = .ok G' at h
        exact count_sound h hrs' hG

theorem verdict_covers {votes : Nat} {mode : VotingMode} {G : List Group} {a : RepairArgs}
    (h : (verdict votes mode G).args = some a) :
    ∀ b ∈ G.flatMap Group.members, b ∈ a.winners ∨ b ∈ a.losers := by
  obtain ⟨i, w, hl, -, -, rfl⟩ := verdict_args h
  have hw := (leader_get mode G i w hl).1
  intro b hb
  obtain ⟨g, hg, hbg⟩ := List.mem_flatMap.mp hb
  obtain ⟨j, hj⟩ := List.mem_iff_getElem?.mp hg
  by_cases hji : j = i
  · subst hji
    rw [hw] at hj
    cases hj
    exact .inl hbg
  · exact .inr (List.mem_flatMap.mpr ⟨g, List.mem_eraseIdx_iff_getElem?.mpr ⟨j, hji, hj⟩, hbg⟩)

/-- A read answers every node from the fleet as it was, counts the answers in the order they
arrive, and takes the verdict. -/
theorem read_eq (fleet : Fleet) (d : Dispatch) (nodes : List Backend) (votes : Nat)
    (operator : ReadOperator) (cmp : ValueComparer) (mode : VotingMode) :
    read fleet d nodes votes operator cmp mode =
      (fun G => (verdict votes mode G, (dispatchRead operator d nodes fleet).2)) <$>
        count cmp [] (arrive d (nodes.map fun b => (b, answer operator d fleet b))) := by
  unfold read
  rw [dispatchRead_eq]
  dsimp only
  cases count cmp [] (arrive d (nodes.map fun b => (b, answer operator d fleet b))) <;> rfl

theorem count_unanimous {x : Except Error Value}
    (hx : (∃ v, x = .ok v ∧ cmp v v = .ok true) ∨ x = .error .notFound) :
    ∀ {rs : List Reply}, rs ≠ [] → (∀ r ∈ rs, r.2 = x) →
      count cmp [] rs = .ok [⟨x.toOption, rs.map Prod.fst⟩]
  | [], hne, _ => absurd rfl hne
  | (b, r) :: rs, _, hrs => by
    have hr : r = x := hrs (b, r) (List.mem_cons_self _ _)
    have hrs' : ∀ r ∈ rs, r.2 = x := fun r hr => hrs r (List.mem_cons_of_mem _ hr)
    subst hr
    rcases hx with ⟨v, rfl, hv⟩ | rfl
    · rw [count_cons_ok]
      simp only [countValue, bind, Except.bind]
      rw [count_accepted cmp v rs [b] (fun r hr => ⟨v, hrs' r hr, hv⟩)]
      rfl
    · change count cmp [⟨none, [b]⟩] rs = _
      rw [count_notFound cmp rs [b] hrs']
      rfl

theorem read_unanimous {fleet : Fleet} {d : Dispatch} {nodes : List Backend} {votes : Nat}
    {operator : ReadOperator} {mode : VotingMode} {x : Except Error Value}
    (hx : (∃ v, x = .ok v ∧ cmp v v = .ok true) ∨ (x = .error .notFound ∧ mode = .voteOnNotFound))
    (hans : ∀ b ∈ nodes, answer operator d fleet b = x) (hne : nodes ≠ [])
    (hvotes : votes ≤ nodes.length) :
    ∃ o a, read fleet d nodes votes operator cmp mode =
        .ok (o, (dispatchRead operator d nodes fleet).2) ∧ o.result = x ∧ o.args = some a ∧
          a.losers = [] := by
  have hperm := arrive_perm d (nodes.map fun b => (b, answer operator d fleet b))
  have hrs : ∀ r ∈ arrive d (nodes.map fun b => (b, answer operator d fleet b)), r.2 = x := by
    intro r hr
    obtain ⟨b, hb, rfl⟩ := mem_arrive_answers hr
    exact hans b hb
  have hne' : arrive d (nodes.map fun b => (b, answer operator d fleet b)) ≠ [] := by
    intro h
    rw [h] at hperm
    exact hne (List.map_eq_nil_iff.mp hperm.symm.eq_nil)
  have hcount : count cmp [] _ = _ := count_unanimous (hx.imp_right And.left) hne' hrs
  have hcand : candidate mode ⟨x.toOption, (arrive d (nodes.map fun b =>
      (b, answer operator d fleet b))).map Prod.fst⟩ = true := by
    rcases hx with ⟨v, rfl, -⟩ | ⟨rfl, rfl⟩ <;> simp [candidate, Except.toOption]
  have hlen : votes ≤ ((arrive d (nodes.map fun b =>
      (b, answer operator d fleet b))).map Prod.fst).length := by
    simpa [hperm.length_eq] using hvotes
  rw [read_eq, hcount]
  refine ⟨_, _, rfl, ?_, by rw [verdict_single votes mode _ hcand hlen], rfl⟩
  rw [verdict_single votes mode _ hcand hlen]
  rcases hx with ⟨v, rfl, -⟩ | ⟨rfl, -⟩ <;> rfl

end QuorumEngine

end KeyValueStore
