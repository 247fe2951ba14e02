import KeyValueStore.EngineReads
import KeyValueStore.EngineWrites
import KeyValueStore.Rollback
import KeyValueStore.Comparers

set_option autoImplicit false

/-!
# One round of read repair

Get, Exists, Expire and GetTTL each hand `performRead` a read closure, a repair closure and a
comparer. When the read wins, the engine fires the repair with the winners and the losers; the
repair deletes the key on the losers (`ErrNotFound` won) or writes the winners' value and agreed
TTL to them. For Get, Exists and Expire the comparer is equality, so once the repair has run the
same read finds every backend in one group. GetTTL compares with a tolerance that is not
transitive, so a re-issued GetTTL whose replies arrive in another order may split the backends
again.
-/

namespace KeyValueStore

/-- The read closure, repair closure and comparer one of the service's reads hands to
`performRead`. -/
structure ReadCall where
  operator : ReadOperator
  repair : RepairOperator
  comparer : ValueComparer

/-- `coreService.Get`'s closures. -/
def getCall (key : Key) : ReadCall := ⟨.get key, .get key, byteComparer⟩

/-- `coreService.Exists`'s closures. -/
def existsCall (key : Key) : ReadCall := ⟨.exists key, .exists key, booleanComparer⟩

/-- `coreService.Expire`'s closures. -/
def expireCall (key : Key) (expiration : Duration) : ReadCall :=
  ⟨.expire key expiration, .expire key, booleanComparer⟩

/-- `coreService.GetTTL`'s closures. -/
def getTTLCall (key : Key) : ReadCall := ⟨.ttl key, .getTTL key, durationComparer⟩

theorem CoreService.get_eq_performRead (svc : CoreService) (cluster : Cluster) (g : GetRequest) :
    svc.get cluster g = (svc.performRead cluster g.key g.options (getCall g.key).operator
      (getCall g.key).repair (getCall g.key).comparer).bind fun x => match x with
        | .error err => pure (.error (convertErrorToGRPC err))
        | .ok rawResult => (Prog.lift rawResult.asBytes).bind fun data => pure (.ok ⟨data⟩) :=
  rfl

theorem CoreService.exists_eq_performRead (svc : CoreService) (cluster : Cluster)
    (r : ExistsRequest) :
    CoreService.exists svc cluster r = (svc.performRead cluster r.key r.options
      (existsCall r.key).operator (existsCall r.key).repair (existsCall r.key).comparer).bind
        fun x => match x with
        | .error .notFound => pure (.ok ⟨false⟩)
        | .error err => pure (.error (convertErrorToGRPC err))
        | .ok rawResult => (Prog.lift rawResult.asBool).bind fun v => pure (.ok ⟨v⟩) :=
  rfl

theorem CoreService.expire_eq_performRead (svc : CoreService) (cluster : Cluster)
    (r : ExpireRequest) :
    svc.expire cluster r = (svc.performRead cluster r.key ⟨r.options.consistency⟩
      (expireCall r.key r.expiration).operator (expireCall r.key r.expiration).repair
      (expireCall r.key r.expiration).comparer).bind fun x => match x with
        | .error .notFound => pure (.ok ⟨false⟩)
        | .error err => pure (.error (convertErrorToGRPC err))
        | .ok rawResult => (Prog.lift rawResult.asBool).bind fun v => pure (.ok ⟨v⟩) :=
  rfl

namespace ReadOperator

/-- What the operator answers for an entry its key holds. -/
def held : ReadOperator → Entry → Value
  | .get _, e => .bytes e.data
  | .ttl _, e => .duration e.ttl
  | .exists _, _ => .bool true
  | .expire _ _, _ => .bool true

def key : ReadOperator → Key
  | .get key => key
  | .ttl key => key
  | .exists key => key
  | .expire key _ => key

/-- A result the repairs can use: a value, and from a TTL read a duration other than nil and
zero (the agreed TTL, positive for the TTLs backends report). -/
def agrees : ReadOperator → Except Error Value → Bool
  | .ttl _, .ok (.duration (some t)) => t != 0
  | .ttl _, _ => false
  | _, .ok _ => true
  | _, .error _ => false

theorem run_answer (operator : ReadOperator) (s : Store) :
    (operator.run s).1 = match s operator.key with
      | some e => .ok (operator.held e)
      | none => .error .notFound := by
  cases operator with
  | get k => cases h : s k <;> simp [run, ReadOperator.key, held, h, Store.get, Except.map]
  | ttl k => cases h : s k <;> simp [run, ReadOperator.key, held, h, Store.ttl, Except.map]
  | «exists» k => cases h : s k <;> simp [run, ReadOperator.key, held, h, Store.exists]
  | expire k e => cases h : s k <;> simp [run, ReadOperator.key, held, h, Store.expire]

theorem run_entry (operator : ReadOperator) (s : Store) :
    ((operator.run s).2 operator.key).map Entry.data = (s operator.key).map Entry.data := by
  cases operator with
  | expire k e => cases h : s k <;> simp [run, ReadOperator.key, Store.expire, h]
  | _ => rfl

theorem agrees_ttl {key : Key} {r : Except Error Value} (h : (ReadOperator.ttl key).agrees r) :
    ∃ t, t ≠ 0 ∧ r = .ok (.duration (some t)) := by
  cases r with
  | error e => simp [agrees] at h
  | ok v =>
    cases v with
    | duration p =>
      cases p with
      | none => simp [agrees] at h
      | some t => exact ⟨t, by simpa [agrees] using h, rfl⟩
    | _ => simp [agrees] at h

theorem agrees_ok {operator : ReadOperator} {r : Except Error Value} (h : operator.agrees r) :
    ∃ v, r = .ok v := by
  cases r with
  | ok v => exact ⟨v, rfl⟩
  | error e => cases operator <;> simp [agrees] at h

end ReadOperator

namespace QuorumEngine

theorem answer_eq {operator : ReadOperator} {d : Dispatch} {fleet : Fleet} {b : Backend}
    (hb : d.faulty b = false) :
    answer operator d fleet b = match fleet b operator.key with
      | some e => .ok (operator.held e)
      | none => .error .notFound := by
  simp only [answer, hb, Bool.false_eq_true, if_false, ReadOperator.run_answer]

theorem answer_ok {operator : ReadOperator} {d : Dispatch} {fleet : Fleet} {b : Backend}
    {v : Value} (h : answer operator d fleet b = .ok v) :
    ∃ e, fleet b operator.key = some e ∧ v = operator.held e := by
  unfold answer at h
  split at h
  · cases h
  · rw [ReadOperator.run_answer] at h
    cases he : fleet b operator.key <;> simp only [he, Except.ok.injEq, reduceCtorEq] at h
    exact ⟨_, rfl, h.symm⟩

theorem answer_notFound {operator : ReadOperator} {d : Dispatch} {fleet : Fleet} {b : Backend}
    (h : answer operator d fleet b = .error .notFound) : fleet b operator.key = none := by
  unfold answer at h
  split at h
  · cases h
  · rw [ReadOperator.run_answer] at h
    cases he : fleet b operator.key <;> simp only [he, reduceCtorEq] at h
    rfl

theorem dispatchRead_entry (operator : ReadOperator) (d : Dispatch) (nodes : List Backend)
    (fleet : Fleet) (b : Backend) :
    ((dispatchRead operator d nodes fleet).2 b operator.key).map Entry.data =
      (fleet b operator.key).map Entry.data := by
  rw [dispatchRead_eq]
  dsimp only
  split
  · exact ReadOperator.run_entry operator (fleet b)
  · rfl

theorem read_fleet_of_pure {operator : ReadOperator} (hp : operator.Pure) {fleet fleet' : Fleet}
    {d : Dispatch} {nodes : List Backend} {votes : Nat} {cmp : ValueComparer} {mode : VotingMode}
    {o : ReadOutcome} (h : read fleet d nodes votes operator cmp mode = .ok (o, fleet')) :
    fleet' = fleet := by
  rw [read_eq] at h
  cases hc : count cmp [] (arrive d (nodes.map fun b => (b, answer operator d fleet b))) with
  | error p => simp [hc, Functor.map, Except.map] at h
  | ok G =>
    simp only [hc, Functor.map, Except.map, Except.ok.injEq, Prod.mk.injEq] at h
    rw [← h.2, dispatchRead_fleet_of_pure operator d hp]

theorem read_args {fleet fleet₁ : Fleet} {d : Dispatch} {nodes : List Backend} {votes : Nat}
    {operator : ReadOperator} {cmp : ValueComparer} {mode : VotingMode} {o : ReadOutcome}
    {args : RepairArgs} (hd : ∀ b ∈ nodes, d.faulty b = false)
    (h : read fleet d nodes votes operator cmp mode = .ok (o, fleet₁)) (hargs : o.args = some args) :
    ∃ w : Group, candidate mode w ∧ votes ≤ nodes.length ∧ nodes ≠ [] ∧
      Sound cmp (answer operator d fleet) w ∧
      args.value = w.value.getD .nil ∧ args.err = (if w.value = none then some .notFound else none) ∧
      args.winners = w.members ∧ (∀ b ∈ nodes, b ∈ args.winners ∨ b ∈ args.losers) ∧
      fleet₁ = (dispatchRead operator d nodes fleet).2 := by
  rw [read_eq, Except.map_eq_ok] at h
  obtain ⟨G, hG, hrun⟩ := h
  cases hrun
  obtain ⟨i, w, hl, hvotes, -, rfl⟩ := verdict_args hargs
  obtain ⟨hw, hcand⟩ := leader_get mode G i w hl
  have hwG : w ∈ G := List.getElem?_mem hw
  have hperm := arrive_perm d (nodes.map fun b => (b, answer operator d fleet b))
  have hcounted : ∀ r ∈ arrive d (nodes.map fun b => (b, answer operator d fleet b)),
      ¬ Uncounted r := by
    rintro r hr ⟨e, he, hne⟩
    obtain ⟨b, hb, rfl⟩ := mem_arrive_answers hr
    rw [answer_eq (hd _ hb)] at he
    cases hk : fleet b operator.key <;> simp only [hk] at he
    · cases he; exact hne rfl
    · cases he
  have hmembers : (G.flatMap Group.members).Perm nodes := (count_members cmp hG hcounted).trans
    (by simpa [List.map_map, Function.comp_def] using hperm.map Prod.fst)
  have hsound : Sound cmp (answer operator d fleet) w :=
    count_sound hG (fun r hr => by obtain ⟨b, -, rfl⟩ := mem_arrive_answers hr; rfl) (by simp) w hwG
  have hlen : w.members.length ≤ nodes.length := calc
    w.members.length ≤ (G.flatMap Group.members).length :=
      (List.sublist_flatten_of_mem (List.mem_map_of_mem Group.members hwG)).length_le
    _ = nodes.length := hmembers.length_eq
  refine ⟨w, hcand, hvotes.trans hlen, ?_, hsound, rfl, rfl, rfl,
    fun b hb => verdict_covers hargs b (hmembers.mem_iff.mpr hb), rfl⟩
  have := List.length_pos.mpr hsound.nonempty
  exact List.length_pos.mp (by omega)

end QuorumEngine

namespace Prog

/-- Whether every engine read in the run of `p` from `fleet`, taking its dispatches from `ds`,
returns a result its operator `agrees` with. -/
def readsSucceed {α : Type} : Prog α → List Dispatch → Fleet → Bool
  | .ret _, _, _ => true
  | .panic _, _, _ => true
  | .read nodes votes operator _ cmp mode next, ds, fleet =>
    match QuorumEngine.read fleet (ds.headD .reliable) nodes votes operator cmp mode with
    | .ok (o, fleet) => operator.agrees o.result && (next o.result).readsSucceed ds.tail fleet
    | .error _ => false
  | .write nodes acks operator _ mode next, ds, fleet =>
    match QuorumEngine.write fleet (ds.headD .reliable) nodes acks operator mode with
    | .ok (o, fleet) => (next o.result).readsSucceed ds.tail fleet
    | .error _ => true

variable {α : Type} {ds : List Dispatch} {fleet : Fleet} {r : α × Fleet × List Task}

theorem exec_read_ok {nodes : List Backend} {votes : Nat} {operator : ReadOperator}
    {repair : Option RepairOperator} {cmp : ValueComparer} {mode : VotingMode}
    {next : Except Error Value → Prog α}
    (h : (read nodes votes operator repair cmp mode next).exec ds fleet = .ok r)
    (hs : (read nodes votes operator repair cmp mode next).readsSucceed ds fleet) :
    ∃ o fleet₁ r₁, QuorumEngine.read fleet (ds.headD .reliable) nodes votes operator cmp mode =
        .ok (o, fleet₁) ∧ operator.agrees o.result ∧ (next o.result).exec ds.tail fleet₁ = .ok r₁ ∧
      (next o.result).readsSucceed ds.tail fleet₁ ∧ r.1 = r₁.1 ∧ r.2.1 = r₁.2.1 := by
  rw [exec_read, Except.bind_eq_ok] at h
  obtain ⟨⟨o, fleet₁⟩, hread, h⟩ := h
  obtain ⟨r₁, hnext, h⟩ := Except.bind_eq_ok.mp h
  simp only [readsSucceed] at hs
  rw [hread] at hs
  simp only [Bool.and_eq_true] at hs
  cases h
  exact ⟨o, fleet₁, r₁, hread, hs.1, hnext, hs.2, rfl, rfl⟩

theorem exec_write_ok {nodes : List Backend} {acks : Nat} {operator : WriteOperator}
    {rollback : RollbackOperator} {mode : OperationMode} {next : Except Error Unit → Prog α}
    (h : (write nodes acks operator rollback mode next).exec ds fleet = .ok r) :
    ∃ o fleet₁ r₁, QuorumEngine.write fleet (ds.headD .reliable) nodes acks operator mode =
        .ok (o, fleet₁) ∧ (next o.result).exec ds.tail fleet₁ = .ok r₁ ∧ r.2.1 = r₁.2.1 := by
  rw [exec_write, Except.bind_eq_ok] at h
  obtain ⟨⟨o, fleet₁⟩, hwrite, h⟩ := h
  obtain ⟨r₁, hnext, h⟩ := Except.bind_eq_ok.mp h
  cases h
  exact ⟨o, fleet₁, r₁, hwrite, hnext, rfl⟩

end Prog

theorem performRead_exec (svc : CoreService) (cluster : Cluster) (key : Key)
    (options : ReadOptions) (operator : ReadOperator) (repair : RepairOperator)
    (cmp : ValueComparer) {view : ReadView}
    (hview : cluster.read key (svc.readConsistency options) = .ok view) (ds : List Dispatch)
    (fleet : Fleet) :
    (svc.performRead cluster key options operator repair cmp).exec ds fleet =
      (fun r : ReadOutcome × Fleet => (r.1.result, r.2,
          match r.1.args with
          | some a => [Task.repair repair a]
          | none => [])) <$>
        QuorumEngine.read fleet (ds.headD .reliable) view.backends view.voteRequired operator cmp
          view.votingMode := by
  simp only [CoreService.performRead, hview, Engine.read, Prog.exec_read]
  cases QuorumEngine.read fleet (ds.headD .reliable) view.backends view.voteRequired operator cmp
    view.votingMode with
  | error p => rfl
  | ok p =>
    obtain ⟨⟨result, args⟩, fleet'⟩ := p
    cases args <;> rfl

theorem deleteLosers_exec (key : Key) (losers : List Backend) (fleet : Fleet) :
    (deleteLosers key losers).exec [] fleet =
      .ok ((), fun b => if b ∈ losers then (fleet b).delete key else fleet b, []) := by
  simp only [deleteLosers, Engine.write, Prog.bind_eq, Prog.write_bind, Prog.exec_write,
    List.headD_nil, QuorumEngine.write_of_acts _ (WriteOperator.acts_delete key)
      (fun s => Store.delete_delete s key)]
  simp [Dispatch.reliable, bind, Except.bind, pure, Except.pure]

theorem setLosers_exec {key : Key} {losers : List Backend} {value : Value} {ttl : Duration}
    {fleet fleet' : Fleet} {tasks : List Task}
    (h : (setLosers key losers value ttl).exec [] fleet = .ok ((), fleet', tasks)) :
    ∃ data, (value = .bytes data ∨ losers = []) ∧
      fleet' = fun b => if b ∈ losers then (fleet b).set key data ttl else fleet b := by
  have h' : (Prog.write losers 0 (.setValue key value ttl) (.write (.delete key)) .concurrent
      fun _ => Prog.ret ()).exec [] fleet = .ok ((), fleet', tasks) := h
  obtain ⟨o, fleet₁, r₁, hwrite, hnext, hfleet⟩ := Prog.exec_write_ok h'
  cases hnext
  cases hfleet
  rw [List.headD_nil, QuorumEngine.write_zero, Except.map_eq_ok] at hwrite
  obtain ⟨⟨acked, fleet₂⟩, hconc, hr⟩ := hwrite
  cases hr
  cases value with
  | bytes data =>
    rw [QuorumEngine.writeConcurrent_of_acts _ (WriteOperator.acts_setValue key data ttl)
      (fun s => Store.set_set s key data ttl)] at hconc
    cases hconc
    exact ⟨data, .inl rfl, by simp [Dispatch.reliable]⟩
  | _ =>
    cases losers with
    | nil => cases hconc; exact ⟨[], .inr rfl, by simp⟩
    | cons l ls =>
      simp [QuorumEngine.writeConcurrent, QuorumEngine.callWrite, WriteOperator.run,
        Value.asBytes, Dispatch.reliable, bind, Except.bind] at hconc

theorem getRepair_effect {key : Key} {args : RepairArgs} {fleet fleet' : Fleet}
    {tasks : List Task} (h : (getRepair key args).exec [] fleet = .ok ((), fleet', tasks))
    (hs : (getRepair key args).readsSucceed [] fleet) :
    (args.err = some .notFound ∧
        fleet' = fun b => if b ∈ args.losers then (fleet b).delete key else fleet b) ∨
      args.err ≠ some .notFound ∧ ∃ data t, (args.value = .bytes data ∨ args.losers = []) ∧
        fleet' = fun b => if b ∈ args.losers then (fleet b).set key data t else fleet b := by
  by_cases herr : args.err = some .notFound
  · simp only [getRepair, herr, if_true, deleteLosers_exec, Except.ok.injEq, Prod.mk.injEq] at h
    exact .inl ⟨herr, h.2.1.symm⟩
  · simp only [getRepair, herr, if_false, Engine.read, Prog.bind_eq, Prog.read_bind,
      Prog.ret_bind] at h hs
    obtain ⟨o, fleet₁, ⟨⟨⟩, fleet₂, tasks₂⟩, hread, hagree, hnext, -, -, hfleet⟩ :=
      Prog.exec_read_ok h hs
    obtain ⟨t, ht, hres⟩ := ReadOperator.agrees_ttl hagree
    cases QuorumEngine.read_fleet_of_pure (by rfl) hread
    cases hfleet
    rw [hres] at hnext
    simp only [Value.duration.injEq, reduceCtorEq, if_false, bind, Except.bind, Value.asDuration, deref,
      Prog.lift_ok, Prog.ret_bind] at hnext
    rw [if_pos ht, List.tail_nil] at hnext
    obtain ⟨data, hdata, rfl⟩ := setLosers_exec hnext
    exact .inr ⟨herr, data, t, hdata, rfl⟩

theorem setLosersFromWinners_effect {key : Key} {args : RepairArgs} {ttl : Duration}
    {fleet fleet' : Fleet} {tasks : List Task}
    (h : (setLosersFromWinners key args ttl).exec [] fleet = .ok ((), fleet', tasks))
    (hs : (setLosersFromWinners key args ttl).readsSucceed [] fleet) :
    ∃ data, fleet' = fun b => if b ∈ args.losers then (fleet b).set key data ttl else fleet b := by
  simp only [setLosersFromWinners, Engine.read, Prog.bind_eq, Prog.read_bind, Prog.ret_bind] at h hs
  obtain ⟨o, fleet₁, ⟨⟨⟩, fleet₂, tasks₂⟩, hread, hagree, hnext, -, -, hfleet⟩ :=
    Prog.exec_read_ok h hs
  obtain ⟨v, hres⟩ := ReadOperator.agrees_ok hagree
  cases QuorumEngine.read_fleet_of_pure (by rfl) hread
  cases hfleet
  rw [hres] at hnext
  obtain ⟨data, -, rfl⟩ := setLosers_exec hnext
  exact ⟨data, rfl⟩

theorem existenceRepair_effect {key : Key} {args : RepairArgs} {fleet fleet' : Fleet}
    {tasks : List Task} (h : (existenceRepair key args).exec [] fleet = .ok ((), fleet', tasks))
    (hs : (existenceRepair key args).readsSucceed [] fleet) :
    (args.err = some .notFound ∧
        fleet' = fun b => if b ∈ args.losers then (fleet b).delete key else fleet b) ∨
      args.err ≠ some .notFound ∧
        ∃ data t, fleet' = fun b => if b ∈ args.losers then (fleet b).set key data t else fleet b := by
  by_cases herr : args.err = some .notFound
  · simp only [existenceRepair, herr, if_true, deleteLosers_exec, Except.ok.injEq,
      Prod.mk.injEq] at h
    exact .inl ⟨herr, h.2.1.symm⟩
  · simp only [existenceRepair, herr, if_false, Engine.read, Prog.bind_eq, Prog.read_bind,
      Prog.ret_bind] at h hs
    obtain ⟨o, fleet₁, ⟨⟨⟩, fleet₂, tasks₂⟩, hread, hagree, hnext, hs', -, hfleet⟩ :=
      Prog.exec_read_ok h hs
    obtain ⟨t, ht, hres⟩ := ReadOperator.agrees_ttl hagree
    cases QuorumEngine.read_fleet_of_pure (by rfl) hread
    cases hfleet
    rw [hres] at hnext hs'
    by_cases hv : args.value = .nil
    · simp only [hv, if_true, List.tail_nil] at hnext hs'
      obtain ⟨data, rfl⟩ := setLosersFromWinners_effect hnext hs'
      exact .inr ⟨herr, data, 0, rfl⟩
    · simp only [hv, if_false, bind, Except.bind, Value.asDuration, deref, Prog.lift_ok,
        Prog.ret_bind, ht, List.tail_nil] at hnext hs'
      obtain ⟨data, rfl⟩ := setLosersFromWinners_effect hnext hs'
      exact .inr ⟨herr, data, t, rfl⟩

theorem settle_single {t : Task} {fleet fleet' : Fleet} (h : settle [t] fleet = .ok fleet') :
    ∃ tasks, t.prog.exec [] fleet = .ok ((), fleet', tasks) := by
  cases hr : t.prog.exec [] fleet with
  | error p => simp [settle, hr, Except.map, bind, Except.bind] at h
  | ok r =>
    obtain ⟨⟨⟩, f, tasks⟩ := r
    simp [settle, hr, Except.map, bind, Except.bind, pure, Except.pure] at h
    exact ⟨tasks, by rw [h]⟩

namespace QuorumEngine

section Fixpoint

variable {operator : ReadOperator} {cmp : ValueComparer} {d : Dispatch} {nodes : List Backend}
  {fleet : Fleet} {w : Group} {args : RepairArgs}

theorem repaired_absent (hnone : w.value = none) (hsound : Sound cmp (answer operator d fleet) w)
    (hwin : args.winners = w.members) (hcover : ∀ b ∈ nodes, b ∈ args.winners ∨ b ∈ args.losers) :
    ∀ b ∈ nodes, (if b ∈ args.losers then
      ((dispatchRead operator d nodes fleet).2 b).delete operator.key
      else (dispatchRead operator d nodes fleet).2 b) operator.key = none := by
  intro b hb
  by_cases hl : b ∈ args.losers
  · simp [hl]
  · have hw : b ∈ w.members := hwin ▸ (hcover b hb).resolve_right hl
    have hans := hsound.answered b hw
    simp only [hnone] at hans
    have hentry := dispatchRead_entry operator d nodes fleet b
    rw [answer_notFound hans, Option.map_none', Option.map_eq_none'] at hentry
    simpa [hl] using hentry

theorem repaired_present {rep : Value} {data : Bytes} {t : Duration} (hrep : w.value = some rep)
    (hexact : ∀ v, cmp rep v = .ok true → v = rep)
    (hheld : ∀ e e' : Entry, e.data = e'.data → operator.held e = operator.held e')
    (hsound : Sound cmp (answer operator d fleet) w) (hwin : args.winners = w.members)
    (hcover : ∀ b ∈ nodes, b ∈ args.winners ∨ b ∈ args.losers)
    (hlosers : args.losers ≠ [] → operator.held ⟨data, expiry t⟩ = rep) :
    ∀ b ∈ nodes, ∃ e, (if b ∈ args.losers then
      ((dispatchRead operator d nodes fleet).2 b).set operator.key data t
      else (dispatchRead operator d nodes fleet).2 b) operator.key = some e ∧
        operator.held e = rep := by
  intro b hb
  by_cases hl : b ∈ args.losers
  · exact ⟨_, by simp [hl], hlosers (List.ne_nil_of_mem hl)⟩
  · have hw : b ∈ w.members := hwin ▸ (hcover b hb).resolve_right hl
    have hans := hsound.answered b hw
    simp only [hrep] at hans
    obtain ⟨v, hans, hv⟩ := hans
    obtain ⟨e, he, rfl⟩ := answer_ok hans
    have hentry := dispatchRead_entry operator d nodes fleet b
    rw [he, Option.map_some', Option.map_eq_some'] at hentry
    obtain ⟨e', he', hdata⟩ := hentry
    refine ⟨e', by simp [hl, he'], ?_⟩
    rw [← hheld e e' hdata.symm]
    exact hv.elim id (hexact _)

theorem winner_held {rep : Value} (hrep : w.value = some rep)
    (hexact : ∀ v, cmp rep v = .ok true → v = rep) (hsound : Sound cmp (answer operator d fleet) w) :
    ∃ e, operator.held e = rep := by
  obtain ⟨b, hb⟩ := List.exists_mem_of_ne_nil _ hsound.nonempty
  have hans := hsound.answered b hb
  simp only [hrep] at hans
  obtain ⟨v, hans, hv⟩ := hans
  obtain ⟨e, -, rfl⟩ := answer_ok hans
  exact ⟨e, hv.elim id (hexact _)⟩

theorem repaired_state {fleet₂ : Fleet} (hexact : ∀ x y, cmp x y = .ok true → y = x)
    (hheld : ∀ e e' : Entry, e.data = e'.data → operator.held e = operator.held e')
    (hsound : Sound cmp (answer operator d fleet) w) (hvalue : args.value = w.value.getD .nil)
    (herr : args.err = if w.value = none then some .notFound else none)
    (hwin : args.winners = w.members) (hcover : ∀ b ∈ nodes, b ∈ args.winners ∨ b ∈ args.losers)
    (heffect : (args.err = some .notFound ∧ fleet₂ = fun b => if b ∈ args.losers then
          ((dispatchRead operator d nodes fleet).2 b).delete operator.key
          else (dispatchRead operator d nodes fleet).2 b) ∨
        args.err ≠ some .notFound ∧ ∃ data t, (args.losers ≠ [] →
          operator.held ⟨data, expiry t⟩ = args.value ∨
            ∀ e e' : Entry, operator.held e = operator.held e') ∧
          fleet₂ = fun b => if b ∈ args.losers then
            ((dispatchRead operator d nodes fleet).2 b).set operator.key data t
            else (dispatchRead operator d nodes fleet).2 b) :
    (w.value = none ∧ ∀ b ∈ nodes, fleet₂ b operator.key = none) ∨
      ∃ rep, w.value = some rep ∧
        ∀ b ∈ nodes, ∃ e, fleet₂ b operator.key = some e ∧ operator.held e = rep := by
  cases hw : w.value with
  | none =>
    rcases heffect with ⟨-, rfl⟩ | ⟨hne, -⟩
    · exact .inl ⟨rfl, repaired_absent hw hsound hwin hcover⟩
    · simp [herr, hw] at hne
  | some rep =>
    rcases heffect with ⟨hnf, -⟩ | ⟨-, data, t, hlosers, rfl⟩
    · simp [herr, hw] at hnf
    · refine .inr ⟨rep, rfl, repaired_present hw (fun v h => hexact _ _ h) hheld hsound hwin hcover
        fun hne => ?_⟩
      rcases hlosers hne with h | hconst
      · rw [h, hvalue, hw]; rfl
      · obtain ⟨e, he⟩ := winner_held hw (fun v h => hexact _ _ h) hsound
        exact (hconst _ e).trans he

end Fixpoint

end QuorumEngine

/-- What makes one round of repair a fixpoint: the comparer is equality on what the operator
answers, which depends on an entry's data alone, and the repair either deletes the key on the
losers (`ErrNotFound` won) or gives each of them an entry the operator answers with the winning
value. -/
structure ReadCall.Exact (call : ReadCall) : Prop where
  exact : ∀ x y, call.comparer x y = .ok true → y = x
  refl : ∀ e, call.comparer (call.operator.held e) (call.operator.held e) = .ok true
  held : ∀ e e' : Entry, e.data = e'.data → call.operator.held e = call.operator.held e'
  repair : ∀ {args : RepairArgs} {fleet fleet' : Fleet} {tasks : List Task},
    (call.repair.run args).exec [] fleet = .ok ((), fleet', tasks) →
    (call.repair.run args).readsSucceed [] fleet →
    (args.err = some .notFound ∧
        fleet' = fun b => if b ∈ args.losers then (fleet b).delete call.operator.key else fleet b) ∨
      args.err ≠ some .notFound ∧ ∃ data t, (args.losers ≠ [] →
        call.operator.held ⟨data, expiry t⟩ = args.value ∨
          ∀ e e' : Entry, call.operator.held e = call.operator.held e') ∧
        fleet' = fun b => if b ∈ args.losers then (fleet b).set call.operator.key data t else fleet b

theorem getCall_exact (key : Key) : (getCall key).Exact where
  exact _ _ := byteComparer_eq
  refl _ := by simp [getCall, ReadOperator.held]
  held e e' h := by simp [getCall, ReadOperator.held, h]
  repair h hs := by
    rcases getRepair_effect h hs with hnf | ⟨herr, data, t, hdata, rfl⟩
    · exact .inl hnf
    · refine .inr ⟨herr, data, t, fun hne => .inl ?_, rfl⟩
      rcases hdata with h | h
      · rw [h]; rfl
      · exact absurd h hne

theorem existsCall_exact (key : Key) : (existsCall key).Exact where
  exact _ _ := booleanComparer_eq
  refl _ := by simp [existsCall, ReadOperator.held]
  held _ _ _ := rfl
  repair h hs := (existenceRepair_effect h hs).imp_right
    fun ⟨herr, data, t, hfleet⟩ => ⟨herr, data, t, fun _ => .inr fun _ _ => rfl, hfleet⟩

theorem expireCall_exact (key : Key) (expiration : Duration) : (expireCall key expiration).Exact where
  exact _ _ := booleanComparer_eq
  refl _ := by simp [expireCall, ReadOperator.held]
  held _ _ _ := rfl
  repair h hs := (existenceRepair_effect h hs).imp_right
    fun ⟨herr, data, t, hfleet⟩ => ⟨herr, data, t, fun _ => .inr fun _ _ => rfl, hfleet⟩

/-- One round of repair is a fixpoint for an exact read: when the read wins with every backend of
the view answering and the repair it fires runs to the end with its reads succeeding, the same
read over the same view, every backend answering, wins again, with no losers. -/
theorem performRead_repair_fixpoint (svc : CoreService) (cluster : Cluster) (key : Key)
    (options : ReadOptions) {call : ReadCall} (hexact : call.Exact) {view : ReadView}
    (hview : cluster.read key (svc.readConsistency options) = .ok view)
    {ds ds' : List Dispatch} {fleet fleet₁ fleet₂ : Fleet} {result : Except Error Value}
    {args : RepairArgs} (hd : ∀ b ∈ view.backends, (ds.headD .reliable).faulty b = false)
    (hread : (svc.performRead cluster key options call.operator call.repair call.comparer).exec ds
      fleet = .ok (result, fleet₁, [.repair call.repair args]))
    (hs : (call.repair.run args).readsSucceed [] fleet₁)
    (hrepair : settle [.repair call.repair args] fleet₁ = .ok fleet₂)
    (hd' : ∀ b ∈ view.backends, (ds'.headD .reliable).faulty b = false) :
    ∃ result' fleet₃ args',
      (svc.performRead cluster key options call.operator call.repair call.comparer).exec ds'
        fleet₂ = .ok (result', fleet₃, [.repair call.repair args']) ∧ args'.losers = [] := by
  rw [performRead_exec svc cluster key options _ _ _ hview, Except.map_eq_ok] at hread
  obtain ⟨⟨o, f⟩, hr, heq⟩ := hread
  simp only [Prod.mk.injEq] at heq
  obtain ⟨-, rfl, htask⟩ := heq
  have hargs : o.args = some args := by
    revert htask
    cases o.args <;> simp
  obtain ⟨w, hcand, hvotes, hne, hsound, hvalue, herr, hwin, hcover, rfl⟩ :=
    QuorumEngine.read_args hd hr hargs
  obtain ⟨tasks, hexec⟩ := settle_single hrepair
  have hstate := QuorumEngine.repaired_state hexact.exact hexact.held hsound hvalue herr hwin hcover
    (hexact.repair hexec hs)
  have hreissue : ∃ o' a', QuorumEngine.read fleet₂ (ds'.headD .reliable) view.backends
      view.voteRequired call.operator call.comparer view.votingMode =
        .ok (o', (QuorumEngine.dispatchRead call.operator (ds'.headD .reliable) view.backends
          fleet₂).2) ∧ o'.args = some a' ∧ a'.losers = [] := by
    rcases hstate with ⟨hnone, habs⟩ | ⟨rep, hrep, hpres⟩
    · -- `ErrNotFound` won: no backend holds the key, and `ErrNotFound` may win again
      have hmode : view.votingMode = .voteOnNotFound := by simpa [QuorumEngine.candidate, hnone] using hcand
      obtain ⟨o', a', hr', -, ha'⟩ := QuorumEngine.read_unanimous (.inr ⟨rfl, hmode⟩)
        (fun b hb => show QuorumEngine.answer call.operator (ds'.headD .reliable) fleet₂ b =
          .error .notFound by rw [QuorumEngine.answer_eq (hd' b hb), habs b hb]) hne hvotes
      exact ⟨o', a', hr', ha'⟩
    · -- a value won: every backend answers it
      obtain ⟨e, -, he⟩ := hpres _ (List.head_mem hne)
      obtain ⟨o', a', hr', -, ha'⟩ :=
        QuorumEngine.read_unanimous (.inl ⟨rep, rfl, by rw [← he]; exact hexact.refl e⟩)
          (fun b hb => show QuorumEngine.answer call.operator (ds'.headD .reliable) fleet₂ b =
            .ok rep by
            obtain ⟨e, he', hheld⟩ := hpres b hb
            rw [QuorumEngine.answer_eq (hd' b hb), he']
            exact congrArg Except.ok hheld) hne hvotes
      exact ⟨o', a', hr', ha'⟩
  obtain ⟨⟨result', _⟩, args', hr', rfl, hl'⟩ := hreissue
  rw [performRead_exec svc cluster key options _ _ _ hview, hr']
  exact ⟨result', _, args', rfl, hl'⟩

/-- Read repair reaches a fixpoint in one round for Get, Exists and Expire. -/
theorem read_repair_fixpoint (svc : CoreService) (cluster : Cluster) (options : ReadOptions)
    {key : Key} {call : ReadCall}
    (hcall : call = getCall key ∨ call = existsCall key ∨
      ∃ expiration, call = expireCall key expiration)
    {view : ReadView} (hview : cluster.read key (svc.readConsistency options) = .ok view)
    {ds ds' : List Dispatch} {fleet fleet₁ fleet₂ : Fleet} {result : Except Error Value}
    {args : RepairArgs} (hd : ∀ b ∈ view.backends, (ds.headD .reliable).faulty b = false)
    (hread : (svc.performRead cluster key options call.operator call.repair call.comparer).exec ds
      fleet = .ok (result, fleet₁, [.repair call.repair args]))
    (hs : (call.repair.run args).readsSucceed [] fleet₁)
    (hrepair : settle [.repair call.repair args] fleet₁ = .ok fleet₂)
    (hd' : ∀ b ∈ view.backends, (ds'.headD .reliable).faulty b = false) :
    ∃ result' fleet₃ args',
      (svc.performRead cluster key options call.operator call.repair call.comparer).exec ds'
        fleet₂ = .ok (result', fleet₃, [.repair call.repair args']) ∧ args'.losers = [] := by
  have hexact : call.Exact := by
    rcases hcall with rfl | rfl | ⟨expiration, rfl⟩
    exacts [getCall_exact key, existsCall_exact key, expireCall_exact key expiration]
  exact performRead_repair_fixpoint svc cluster key options hexact hview hd hread hs hrepair hd'

def replicaC : Backend := ⟨"c"⟩

def replicaD : Backend := ⟨"d"⟩

def trioCluster : Cluster where
  read _ _ := .ok ⟨[replicaA, replicaB, replicaC], 2, .voteOnNotFound⟩
  write _ _ := .ok ⟨[replicaA, replicaB, replicaC], 2⟩
  flushDB := .ok ⟨[replicaA, replicaB, replicaC], 2⟩

/-- `"k"` lives ten seconds more on every replica; `c` holds a stale value of it. -/
def staleOnC : Fleet := fun b key =>
  if key = "k" then some ⟨if b = replicaC then [1] else [0], some 10000000000⟩ else none

theorem get_repair_fixpoint_on_trio :
    ∃ fleet₁ fleet₂,
      ((CoreService.new []).performRead trioCluster "k" {} (getCall "k").operator
          (getCall "k").repair (getCall "k").comparer).exec [] staleOnC =
        .ok (.ok (.bytes [0]), fleet₁,
          [.repair (getCall "k").repair ⟨.bytes [0], none, [replicaA, replicaB], [replicaC]⟩]) ∧
      settle [.repair (getCall "k").repair ⟨.bytes [0], none, [replicaA, replicaB], [replicaC]⟩]
        fleet₁ = .ok fleet₂ ∧
      ∃ result' fleet₃ args',
        ((CoreService.new []).performRead trioCluster "k" {} (getCall "k").operator
          (getCall "k").repair (getCall "k").comparer).exec [] fleet₂ =
            .ok (result', fleet₃, [.repair (getCall "k").repair args']) ∧ args'.losers = [] :=
  ⟨_, _, rfl, rfl, @read_repair_fixpoint (CoreService.new []) trioCluster {} "k" (getCall "k")
    (.inl rfl) _ rfl [] [] staleOnC _ _ _ _ (by decide) rfl rfl rfl (by decide)⟩

def quadCluster : Cluster where
  read _ _ := .ok ⟨[replicaA, replicaB, replicaC, replicaD], 3, .voteOnNotFound⟩
  write _ _ := .ok ⟨[replicaA, replicaB, replicaC, replicaD], 3⟩
  flushDB := .ok ⟨[replicaA, replicaB, replicaC, replicaD], 3⟩

/-- `"k"` expires in 10 s on `a`, 8.1 s on `b`, 11.9 s on `c` and 30 s on `d`. -/
def skewedTTLs : Fleet := fun b key =>
  if key = "k" then
    some ⟨[0], some (if b = replicaA then 10000000000 else if b = replicaB then 8100000000
      else if b = replicaC then 11900000000 else 30000000000)⟩
  else none

def bFirst : Dispatch := ⟨fun _ => false, fun b => if b = replicaB then 0 else 1⟩

/-- GetTTL's repair is no fixpoint. `a`, `b` and `c` win with 10 s (8.1 s and 11.9 s are each
within 2 s of it), and the repair, its read succeeding, gives `d` 10 s. When the same GetTTL's
replies arrive with `b`'s first, `a` and `d` join 8.1 s but `c`, 3.8 s away, does not: `c` is
now a loser. -/
theorem getTTL_repair_not_fixpoint :
    ∃ fleet₁ fleet₂,
      ((CoreService.new []).performRead quadCluster "k" {} (getTTLCall "k").operator
          (getTTLCall "k").repair (getTTLCall "k").comparer).exec [] skewedTTLs =
        .ok (.ok (.duration (some 10000000000)), fleet₁, [.repair (getTTLCall "k").repair
          ⟨.duration (some 10000000000), none, [replicaA, replicaB, replicaC], [replicaD]⟩]) ∧
      ((getTTLCall "k").repair.run ⟨.duration (some 10000000000), none,
        [replicaA, replicaB, replicaC], [replicaD]⟩).readsSucceed [] fleet₁ = true ∧
      settle [.repair (getTTLCall "k").repair ⟨.duration (some 10000000000), none,
        [replicaA, replicaB, replicaC], [replicaD]⟩] fleet₁ = .ok fleet₂ ∧
      (((CoreService.new []).performRead quadCluster "k" {} (getTTLCall "k").operator
          (getTTLCall "k").repair (getTTLCall "k").comparer).exec [bFirst] fleet₂).map (·.2.2) =
        .ok [.repair (getTTLCall "k").repair
          ⟨.duration (some 8100000000), none, [replicaB, replicaA, replicaD], [replicaC]⟩] :=
  ⟨_, _, rfl, rfl, rfl, rfl⟩

end KeyValueStore
