import KeyValueStore.ReadRepair
import KeyValueStore.LockRace

set_option autoImplicit false

/-!
# Durability of an acknowledged Set

Requests on a key are issued one after another, each running from start to return. The hooks
they fire, a failed Set's Delete rollback and the reads' repairs, run on their own: each is a
program that makes its engine calls one at a time, at any later point, interleaved with later
requests and with each other. The world is the fleet and the programs still running.

A Set acknowledged under ALL has written its value to every backend of its view, but a rollback
of an earlier Set still in flight deletes it again. With nothing in flight when the Set returns
and only reads of the key after it (no Expire to a zero TTL, which GetTTL's repair answers with a
Delete), every engine call a read or its repair makes keeps the value on every backend. The
engine calls themselves are atomic here; what the backends of one call do concurrently is the
engine's, as in `KeyValueStore.Engine`.
-/

namespace KeyValueStore

namespace Prog

/-- One engine call of a running program, answered with dispatch `d`: what remains to run
(nothing once it has returned), the fleet after the call, and the hooks it fired. -/
def advance {α : Type} : Prog α → Dispatch → Fleet →
    Except Panic (Option (Prog α) × Fleet × List Task)
  | .ret _, _, fleet => .ok (none, fleet, [])
  | .panic p, _, _ => .error p
  | .read nodes votes operator repair cmp mode next, d, fleet => do
    let (o, fleet) ← QuorumEngine.read fleet d nodes votes operator cmp mode
    let fired := match repair, o.args with
      | some r, some args => [Task.repair r args]
      | _, _ => []
    return (some (next o.result), fleet, fired)
  | .write nodes acks operator rollback mode next, d, fleet => do
    let (o, fleet) ← QuorumEngine.write fleet d nodes acks operator mode
    let fired := match o.rollback with
      | some acked => [Task.rollback rollback acked]
      | none => []
    return (some (next o.result), fleet, fired)

theorem advance_read {α : Type} (nodes : List Backend) (votes : Nat) (operator : ReadOperator)
    (repair : Option RepairOperator) (cmp : ValueComparer) (mode : VotingMode)
    (next : Except Error Value → Prog α) (d : Dispatch) (fleet : Fleet) :
    (read nodes votes operator repair cmp mode next).advance d fleet =
      (fun r : ReadOutcome × Fleet => (some (next r.1.result), r.2,
          match repair, r.1.args with
          | some rr, some args => [Task.repair rr args]
          | _, _ => [])) <$>
        QuorumEngine.read fleet d nodes votes operator cmp mode := by
  simp only [advance]
  cases QuorumEngine.read fleet d nodes votes operator cmp mode <;> rfl

theorem advance_write {α : Type} (nodes : List Backend) (acks : Nat) (operator : WriteOperator)
    (rollback : RollbackOperator) (mode : OperationMode) (next : Except Error Unit → Prog α)
    (d : Dispatch) (fleet : Fleet) :
    (write nodes acks operator rollback mode next).advance d fleet =
      (fun r : WriteOutcome × Fleet => (some (next r.1.result), r.2,
          match r.1.rollback with
          | some acked => [Task.rollback rollback acked]
          | none => [])) <$>
        QuorumEngine.write fleet d nodes acks operator mode := by
  simp only [advance]
  cases QuorumEngine.write fleet d nodes acks operator mode <;> rfl

theorem forall_fired_repair {F : Task → Prop} {repair : Option RepairOperator}
    {args : Option RepairArgs} (h : ∀ r a, repair = some r → args = some a → F (.repair r a)) :
    ∀ t ∈ (match repair, args with
      | some r, some a => [Task.repair r a]
      | _, _ => []), F t := by
  cases repair <;> cases args <;> simp [h]

theorem forall_fired_rollback {F : Task → Prop} {rollback : RollbackOperator}
    {acked : Option (List Backend)} (h : ∀ nodes, acked = some nodes → F (.rollback rollback nodes)) :
    ∀ t ∈ (match acked with
      | some nodes => [Task.rollback rollback nodes]
      | none => []), F t := by
  cases acked <;> simp [h]

section Keeps

variable (P : Fleet → Prop) (F : Task → Prop)

/-- Every engine call of the program, made from a fleet satisfying `P`, leaves one satisfying
`P` and fires only hooks satisfying `F`, and so does the rest of the program after it. -/
def Keeps {α : Type} : Prog α → Prop
  | .ret _ => True
  | .panic _ => True
  | .read nodes votes operator repair cmp mode next =>
    ∀ fleet d o fleet', P fleet →
      QuorumEngine.read fleet d nodes votes operator cmp mode = .ok (o, fleet') →
        P fleet' ∧ (∀ r args, repair = some r → o.args = some args → F (.repair r args)) ∧
          (next o.result).Keeps
  | .write nodes acks operator rollback mode next =>
    ∀ fleet d o fleet', P fleet →
      QuorumEngine.write fleet d nodes acks operator mode = .ok (o, fleet') →
        P fleet' ∧ (∀ acked, o.rollback = some acked → F (.rollback rollback acked)) ∧
          (next o.result).Keeps

variable {P F}

theorem Keeps.advance {α : Type} {p : Prog α} (hp : p.Keeps P F) {d : Dispatch}
    {fleet fleet' : Fleet} {rest : Option (Prog α)} {fired : List Task} (hP : P fleet)
    (h : p.advance d fleet = .ok (rest, fleet', fired)) :
    P fleet' ∧ (∀ t ∈ fired, F t) ∧ ∀ p' ∈ rest, p'.Keeps P F := by
  cases p with
  | ret a => cases h; exact ⟨hP, by simp, by simp⟩
  | panic q => cases h
  | read nodes votes operator repair cmp mode next =>
    rw [advance_read, Except.map_eq_ok] at h
    obtain ⟨⟨o, f⟩, hr, h⟩ := h
    cases h
    obtain ⟨hP', hF, hnext⟩ := hp fleet d o f hP hr
    exact ⟨hP', forall_fired_repair hF, by simpa using hnext⟩
  | write nodes acks operator rollback mode next =>
    rw [advance_write, Except.map_eq_ok] at h
    obtain ⟨⟨o, f⟩, hw, h⟩ := h
    cases h
    obtain ⟨hP', hF, hnext⟩ := hp fleet d o f hP hw
    exact ⟨hP', forall_fired_rollback hF, by simpa using hnext⟩

theorem Keeps.exec {α : Type} : ∀ {p : Prog α}, p.Keeps P F → ∀ {ds : List Dispatch}
    {fleet fleet' : Fleet} {a : α} {tasks : List Task}, P fleet →
      p.exec ds fleet = .ok (a, fleet', tasks) → P fleet' ∧ ∀ t ∈ tasks, F t
  | .ret _, _, _, _, _, _, _, hP, h => by cases h; exact ⟨hP, by simp⟩
  | .panic _, _, _, _, _, _, _, _, h => by cases h
  | .read nodes votes operator repair cmp mode next, hp, ds, fleet, fleet', a, tasks, hP, h => by
    rw [exec_read, Except.bind_eq_ok] at h
    obtain ⟨⟨o, fleet₁⟩, hr, h⟩ := h
    obtain ⟨⟨a', fleet₂, tasks₂⟩, hnext, h⟩ := Except.bind_eq_ok.mp h
    cases h
    obtain ⟨hP₁, hF, hkeeps⟩ := hp fleet _ o fleet₁ hP hr
    obtain ⟨hP₂, hF₂⟩ := Keeps.exec hkeeps hP₁ hnext
    exact ⟨hP₂, List.forall_mem_append.mpr ⟨forall_fired_repair hF, hF₂⟩⟩
  | .write nodes acks operator rollback mode next, hp, ds, fleet, fleet', a, tasks, hP, h => by
    rw [exec_write, Except.bind_eq_ok] at h
    obtain ⟨⟨o, fleet₁⟩, hw, h⟩ := h
    obtain ⟨⟨a', fleet₂, tasks₂⟩, hnext, h⟩ := Except.bind_eq_ok.mp h
    cases h
    obtain ⟨hP₁, hF, hkeeps⟩ := hp fleet _ o fleet₁ hP hw
    obtain ⟨hP₂, hF₂⟩ := Keeps.exec hkeeps hP₁ hnext
    exact ⟨hP₂, List.forall_mem_append.mpr ⟨forall_fired_rollback hF, hF₂⟩⟩

end Keeps

end Prog

/-- A client request on one key, as the service's methods take it. -/
inductive Request where
  | set (request : SetRequest)
  | delete (request : DeleteRequest)
  | get (request : GetRequest)
  | «exists» (request : ExistsRequest)
  | expire (request : ExpireRequest)
  | getTTL (request : GetTTLRequest)

namespace Request

/-- The request run from start to return, its engine call answered with `d`: the fleet after it
and the hooks it fired. -/
def exec (svc : CoreService) (cluster : Cluster) : Request → Dispatch → Fleet →
    Except Panic (Fleet × List Task)
  | .set r, d, fleet => ((svc.set cluster r).exec [d] fleet).map (·.2)
  | .delete r, d, fleet => ((svc.delete cluster r).exec [d] fleet).map (·.2)
  | .get r, d, fleet => ((svc.get cluster r).exec [d] fleet).map (·.2)
  | .«exists» r, d, fleet => ((CoreService.exists svc cluster r).exec [d] fleet).map (·.2)
  | .expire r, d, fleet => ((svc.expire cluster r).exec [d] fleet).map (·.2)
  | .getTTL r, d, fleet => ((svc.getTTL cluster r).exec [d] fleet).map (·.2)

/-- A read of `key`, other than an Expire to a zero TTL. -/
def readsKey (key : Key) : Request → Bool
  | .get r => r.key == key
  | .«exists» r => r.key == key
  | .expire r => r.key == key && r.expiration != 0
  | .getTTL r => r.key == key
  | .set _ => false
  | .delete _ => false

end Request

/-- The fleet, and the fired hooks still running. -/
structure World where
  fleet : Fleet
  pending : List (Prog Unit)

inductive Event where
  /-- A request runs from start to return. -/
  | issue (request : Request) (d : Dispatch)
  /-- The `j`-th running hook makes its next engine call, or ends once it has returned. -/
  | advance (j : Nat) (d : Dispatch)

def Event.readsKey (key : Key) : Event → Bool
  | .issue request _ => request.readsKey key
  | .advance _ _ => true

namespace World

variable (svc : CoreService) (cluster : Cluster)

def step (w : World) : Event → Option World
  | .issue request d =>
    match request.exec svc cluster d w.fleet with
    | .ok (fleet, fired) => some ⟨fleet, w.pending ++ fired.map Task.prog⟩
    | .error _ => none
  | .advance j d =>
    match w.pending[j]? with
    | none => none
    | some p =>
      match p.advance d w.fleet with
      | .ok (rest, fleet, fired) =>
        let pending := match rest with
          | some p' => w.pending.set j p'
          | none => w.pending.eraseIdx j
        some ⟨fleet, pending ++ fired.map Task.prog⟩
      | .error _ => none

def run (w : World) : List Event → Option World
  | [] => some w
  | e :: es => (step svc cluster w e).bind (run · es)

variable {svc cluster}

/-- What holds of the start and is kept by every admissible step holds of every world a run of
admissible steps reaches. -/
theorem run_invariant (I : World → Prop) (admissible : Event → Prop)
    (hstep : ∀ w e w', admissible e → I w → step svc cluster w e = some w' → I w') :
    ∀ (events : List Event) (w w' : World), (∀ e ∈ events, admissible e) → I w →
      run svc cluster w events = some w' → I w'
  | [], w, w', _, hw, h => by cases h; exact hw
  | e :: es, w, w', hadm, hw, h => by
    simp only [run, Option.bind_eq_some] at h
    obtain ⟨w₁, h₁, h⟩ := h
    exact run_invariant I admissible hstep es w₁ w' (fun e he => hadm e (List.mem_cons_of_mem _ he))
      (hstep w e w₁ (hadm e (List.mem_cons_self _ _)) hw h₁) h

/-- The world invariant of a fleet invariant `P`: the fleet satisfies it, and every running hook
keeps it and fires nothing. -/
def Kept (P : Fleet → Prop) (w : World) : Prop :=
  P w.fleet ∧ ∀ p ∈ w.pending, p.Keeps P (fun _ => False)

theorem kept_advance {P : Fleet → Prop} {w w' : World} {j : Nat} {d : Dispatch}
    (hw : Kept P w) (h : step svc cluster w (.advance j d) = some w') : Kept P w' := by
  simp only [step] at h
  split at h
  · cases h
  · rename_i p hp
    split at h
    · rename_i rest fleet fired hadv
      cases h
      obtain ⟨hP, hF, hrest⟩ := (hw.2 p (List.getElem?_mem hp)).advance hw.1 hadv
      refine ⟨hP, fun q hq => ?_⟩
      rcases List.mem_append.mp hq with hq | hq
      · split at hq
        · rename_i p' hsome
          rcases List.mem_or_eq_of_mem_set hq with hq | rfl
          · exact hw.2 q hq
          · exact hrest q (by simp [hsome])
        · exact hw.2 q (List.mem_of_mem_eraseIdx hq)
      · obtain ⟨t, ht, -⟩ := List.mem_map.mp hq
        exact absurd (hF t ht) id
    · cases h

end World

section Holds

variable (key : Key) (data : Bytes) (nodes : List Backend)

/-- Every backend of `nodes` holds `data` for the key, under a TTL other than zero. -/
def Holds (fleet : Fleet) : Prop :=
  ∀ b ∈ nodes, ∃ ttl, fleet b key = some ⟨data, ttl⟩ ∧ ttl ≠ some 0

variable {key data nodes}

theorem ReadOperator.run_holds {operator : ReadOperator}
    (hexp : ∀ k e, operator = .expire k e → e ≠ 0) {s : Store} {ttl : Option Duration}
    (hs : s key = some ⟨data, ttl⟩) (httl : ttl ≠ some 0) :
    ∃ ttl', (operator.run s).2 key = some ⟨data, ttl'⟩ ∧ ttl' ≠ some 0 := by
  cases operator with
  | expire k e =>
    by_cases hk : k = key
    · subst hk
      exact ⟨some e, by simp [ReadOperator.run, Store.expire, hs], by simpa using hexp _ _ rfl⟩
    · refine ⟨ttl, ?_, httl⟩
      cases h : s k <;> simp [ReadOperator.run, Store.expire, h, hs, Function.update_noteq (Ne.symm hk)]
  | _ => exact ⟨ttl, hs, httl⟩

theorem read_holds {fleet fleet' : Fleet} {d : Dispatch} {rn : List Backend} {votes : Nat}
    {operator : ReadOperator} {cmp : ValueComparer} {mode : VotingMode} {o : ReadOutcome}
    (hexp : ∀ k e, operator = .expire k e → e ≠ 0)
    (h : QuorumEngine.read fleet d rn votes operator cmp mode = .ok (o, fleet'))
    (hH : Holds key data nodes fleet) : Holds key data nodes fleet' := by
  rw [QuorumEngine.read_eq, Except.map_eq_ok] at h
  obtain ⟨G, -, h⟩ := h
  simp only [Prod.mk.injEq] at h
  obtain ⟨-, rfl⟩ := h
  rw [QuorumEngine.dispatchRead_eq]
  intro b hb
  obtain ⟨ttl, hs, httl⟩ := hH b hb
  dsimp only
  split
  · exact ReadOperator.run_holds hexp hs httl
  · exact ⟨ttl, hs, httl⟩

theorem answer_holds {fleet : Fleet} {operator : ReadOperator} {d : Dispatch} {b : Backend}
    (hH : Holds key data nodes fleet) (hop : operator.key = key) (hb : b ∈ nodes) :
    ∃ ttl, ttl ≠ some 0 ∧ (QuorumEngine.answer operator d fleet b = .ok (operator.held ⟨data, ttl⟩) ∨
      QuorumEngine.Uncounted (b, QuorumEngine.answer operator d fleet b)) := by
  obtain ⟨ttl, hs, httl⟩ := hH b hb
  refine ⟨ttl, httl, ?_⟩
  cases hf : d.faulty b
  · left
    rw [QuorumEngine.answer_eq hf, hop, hs]
  · right
    exact ⟨.internal, by simp [QuorumEngine.answer, hf], by decide⟩

theorem read_agreeing {fleet fleet' : Fleet} {d : Dispatch} {rn : List Backend} {votes : Nat}
    {operator : ReadOperator} {cmp : ValueComparer} {mode : VotingMode} {o : ReadOutcome}
    {x : Value} (hx : cmp x x = .ok true)
    (hans : ∀ b ∈ rn, QuorumEngine.answer operator d fleet b = .ok x ∨
      QuorumEngine.Uncounted (b, QuorumEngine.answer operator d fleet b))
    (h : QuorumEngine.read fleet d rn votes operator cmp mode = .ok (o, fleet')) :
    (o.result = .ok x ∨ o.result = .error .consistency) ∧ ∀ a, o.args = some a → a.losers = [] := by
  rw [QuorumEngine.read_eq, Except.map_eq_ok] at h
  obtain ⟨G, hG, h⟩ := h
  simp only [Prod.mk.injEq] at h
  obtain ⟨rfl, -⟩ := h
  obtain ⟨G', hG', hshape⟩ := QuorumEngine.count_same cmp x hx _ [] (.inl rfl) (fun r hr => by
    obtain ⟨b, hb, rfl⟩ := QuorumEngine.mem_arrive_answers hr
    exact hans b hb)
  rw [hG, Except.ok.injEq] at hG'
  subst hG'
  rcases hshape with rfl | ⟨ms, rfl⟩
  · simp [QuorumEngine.verdict, QuorumEngine.leader]
  · by_cases hv : votes ≤ ms.length <;>
      simp [QuorumEngine.verdict, QuorumEngine.leader, QuorumEngine.candidate, hv, Group.result]

theorem read_ttl_args {fleet fleet' : Fleet} {d : Dispatch} {rn : List Backend} {votes : Nat}
    {cmp : ValueComparer} {mode : VotingMode} {o : ReadOutcome} {a : RepairArgs}
    (hH : Holds key data nodes fleet) (hrn : ∀ b ∈ rn, b ∈ nodes)
    (h : QuorumEngine.read fleet d rn votes (.ttl key) cmp mode = .ok (o, fleet'))
    (hargs : o.args = some a) :
    a.err = none ∧ (∃ tt, a.value = .duration tt ∧ tt ≠ some 0) ∧ ∀ b ∈ a.winners, b ∈ nodes := by
  rw [QuorumEngine.read_eq, Except.map_eq_ok] at h
  obtain ⟨G, hG, h⟩ := h
  simp only [Prod.mk.injEq] at h
  obtain ⟨rfl, -⟩ := h
  obtain ⟨i, w, hl, -, -, rfl⟩ := QuorumEngine.verdict_args hargs
  have hwG : w ∈ G := List.getElem?_mem (QuorumEngine.leader_get mode G i w hl).1
  -- every counted reply is a TTL other than zero
  have hcounted : ∀ r ∈ QuorumEngine.arrive d
      (rn.map fun b => (b, QuorumEngine.answer (.ttl key) d fleet b)),
      (∀ v, r.2 = .ok v → ∃ tt, some v = some (.duration tt) ∧ tt ≠ some 0) ∧
        (r.2 = .error .notFound → ∃ tt, (none : Option Value) = some (.duration tt) ∧ tt ≠ some 0) := by
    intro r hr
    obtain ⟨c, hc, rfl⟩ := QuorumEngine.mem_arrive_answers hr
    obtain ⟨ttl, httl, hans | ⟨e, he, hne⟩⟩ :=
      answer_holds hH (show (ReadOperator.ttl key).key = key from rfl) (hrn c hc)
    · refine ⟨fun v hv => ⟨ttl, ?_, httl⟩, fun hnf => ?_⟩
      · rw [hans] at hv; cases hv; rfl
      · rw [hans] at hnf; cases hnf
    · refine ⟨fun v hv => ?_, fun hnf => ?_⟩
      · rw [he] at hv; cases hv
      · rw [he] at hnf; cases hnf; exact absurd rfl hne
  obtain ⟨tt, hv, htt⟩ := QuorumEngine.count_values_of cmp
    (fun ov => ∃ tt, ov = some (.duration tt) ∧ tt ≠ some 0) hG (by simp) hcounted w hwG
  refine ⟨by simp [hv], ⟨tt, by simp [hv], htt⟩, fun b hb => ?_⟩
  rcases QuorumEngine.count_members_subset cmp hG b (List.mem_flatMap.mpr ⟨w, hwG, hb⟩) with hb | hb
  · simp at hb
  · obtain ⟨r, hr, rfl⟩ := List.mem_map.mp hb
    obtain ⟨c, hc, rfl⟩ := QuorumEngine.mem_arrive_answers hr
    exact hrn c hc

theorem write_holds_setValue {fleet fleet' : Fleet} {d : Dispatch} {ns : List Backend}
    {acks : Nat} {ttl : Duration} {o : WriteOutcome}
    (h : QuorumEngine.write fleet d ns acks (.setValue key (.bytes data) ttl) .concurrent =
      .ok (o, fleet'))
    (hH : Holds key data nodes fleet) : Holds key data nodes fleet' := by
  rw [QuorumEngine.write_of_acts d (WriteOperator.acts_setValue key data ttl)
    (fun s => Store.set_set s key data ttl), Except.ok.injEq, Prod.mk.injEq] at h
  obtain ⟨-, rfl⟩ := h
  intro b hb
  obtain ⟨t, hs, ht⟩ := hH b hb
  dsimp only
  split
  · exact ⟨expiry ttl, by simp, expiry_ne_zero ttl⟩
  · exact ⟨t, hs, ht⟩

end Holds

theorem QuorumEngine.write_nil_zero (fleet : Fleet) (d : Dispatch) (operator : WriteOperator)
    (mode : OperationMode) :
    QuorumEngine.write fleet d [] 0 operator mode = .ok (⟨.ok (), none⟩, fleet) := by
  cases mode <;> rfl

theorem QuorumEngine.write_zero_rollback {fleet fleet' : Fleet} {d : Dispatch} {ns : List Backend}
    {operator : WriteOperator} {o : WriteOutcome}
    (h : QuorumEngine.write fleet d ns 0 operator .concurrent = .ok (o, fleet')) :
    o.rollback = none := by
  rw [QuorumEngine.write_zero, Except.map_eq_ok] at h
  obtain ⟨_, -, h⟩ := h
  simp only [Prod.mk.injEq] at h
  rw [← h.1]

namespace Prog

/-- Reads that leave the fleet as it was and fire nothing, and writes to no backend. -/
def Quiet {α : Type} : Prog α → Prop
  | .ret _ => True
  | .panic _ => True
  | .read _ _ operator repair _ _ next => operator.Pure ∧ repair = none ∧ ∀ r, (next r).Quiet
  | .write nodes acks _ _ _ next => nodes = [] ∧ acks = 0 ∧ ∀ r, (next r).Quiet

theorem Quiet.keeps {α : Type} {P : Fleet → Prop} {F : Task → Prop} :
    ∀ {p : Prog α}, p.Quiet → p.Keeps P F
  | .ret _, _ => trivial
  | .panic _, _ => trivial
  | .read _ _ _ _ _ _ _, ⟨hpure, hrepair, hnext⟩ => by
    intro _ _ _ _ hP h
    refine ⟨QuorumEngine.read_fleet_of_pure hpure h ▸ hP, ?_, (hnext _).keeps⟩
    intro _ _ hr
    rw [hrepair] at hr
    cases hr
  | .write _ _ _ _ _ _, ⟨rfl, rfl, hnext⟩ => by
    intro _ _ _ _ hP h
    rw [QuorumEngine.write_nil_zero, Except.ok.injEq, Prod.mk.injEq] at h
    obtain ⟨rfl, rfl⟩ := h
    refine ⟨hP, ?_, (hnext _).keeps⟩
    intro _ h
    cases h

theorem quiet_lift_bind {α β : Type} (e : Except Panic α) {f : α → Prog β}
    (hf : ∀ a, (f a).Quiet) : ((Prog.lift e).bind f).Quiet := by
  cases e with
  | error p => trivial
  | ok a => exact hf a

end Prog

theorem deleteLosers_quiet (key : Key) {losers : List Backend} (h : losers = []) :
    (deleteLosers key losers).Quiet :=
  ⟨h, rfl, fun _ => trivial⟩

theorem setLosers_quiet (key : Key) (value : Value) (ttl : Duration) {losers : List Backend}
    (h : losers = []) : (setLosers key losers value ttl).Quiet :=
  ⟨h, rfl, fun _ => trivial⟩

theorem setLosersFromWinners_quiet (key : Key) {args : RepairArgs} (ttl : Duration)
    (h : args.losers = []) : (setLosersFromWinners key args ttl).Quiet := by
  refine ⟨rfl, rfl, fun r => ?_⟩
  cases r with
  | error e => trivial
  | ok v => exact setLosers_quiet key v ttl h

theorem RepairOperator.run_quiet (repair : RepairOperator) {args : RepairArgs}
    (h : args.losers = []) : (repair.run args).Quiet := by
  cases repair with
  | get key =>
    show (getRepair key args).Quiet
    unfold getRepair
    split
    · exact deleteLosers_quiet key h
    · refine ⟨rfl, rfl, fun r => ?_⟩
      cases r with
      | error e => trivial
      | ok ttl =>
        show Prog.Quiet (if ttl = Value.nil then _ else _)
        split
        · exact setLosers_quiet key args.value 0 h
        · exact Prog.quiet_lift_bind _ fun t => by
            split
            · exact setLosers_quiet key args.value t h
            · trivial
  | getTTL key =>
    show (getTTLRepair key args).Quiet
    unfold getTTLRepair
    split
    · exact deleteLosers_quiet key h
    · split
      · exact setLosersFromWinners_quiet key 0 h
      · exact Prog.quiet_lift_bind _ fun t => by
          split
          · exact deleteLosers_quiet key h
          · exact setLosersFromWinners_quiet key t h
  | _ key =>
    show (existenceRepair key args).Quiet
    unfold existenceRepair
    split
    · exact deleteLosers_quiet key h
    · refine ⟨rfl, rfl, fun r => ?_⟩
      cases r with
      | error e => trivial
      | ok ttl =>
        show Prog.Quiet (if args.value = Value.nil then _ else _)
        split
        · exact setLosersFromWinners_quiet key 0 h
        · exact Prog.quiet_lift_bind _ fun t => by
            split
            · exact deleteLosers_quiet key h
            · exact setLosersFromWinners_quiet key t h

section Reads

variable {key : Key} {data : Bytes} {nodes : List Backend}

theorem read_no_losers {fleet fleet' : Fleet} {d : Dispatch} {rn : List Backend} {votes : Nat}
    {operator : ReadOperator} {cmp : ValueComparer} {mode : VotingMode} {o : ReadOutcome}
    {x : Value} (hH : Holds key data nodes fleet) (hrn : ∀ b ∈ rn, b ∈ nodes)
    (hop : operator.key = key) (hheld : ∀ ttl, operator.held ⟨data, ttl⟩ = x)
    (hx : cmp x x = .ok true)
    (h : QuorumEngine.read fleet d rn votes operator cmp mode = .ok (o, fleet')) :
    (o.result = .ok x ∨ o.result = .error .consistency) ∧ ∀ a, o.args = some a → a.losers = [] := by
  refine read_agreeing hx (fun b hb => ?_) h
  obtain ⟨ttl, -, hans⟩ := answer_holds (d := d) hH hop (hrn b hb)
  rwa [hheld] at hans

theorem setLosers_keeps (losers : List Backend) (ttl : Duration) :
    (setLosers key losers (.bytes data) ttl).Keeps (Holds key data nodes) (fun _ => False) := by
  intro fleet d o fleet' hH h
  refine ⟨write_holds_setValue h hH, fun _ hr => ?_, trivial⟩
  rw [QuorumEngine.write_zero_rollback h] at hr
  cases hr

theorem setLosersFromWinners_keeps {args : RepairArgs} (ttl : Duration)
    (hw : ∀ b ∈ args.winners, b ∈ nodes) :
    (setLosersFromWinners key args ttl).Keeps (Holds key data nodes) (fun _ => False) := by
  intro fleet d o fleet' hH h
  cases QuorumEngine.read_fleet_of_pure (show (ReadOperator.get key).Pure from rfl) h
  refine ⟨hH, fun _ _ hr => (by cases hr), ?_⟩
  have hagree := read_no_losers hH hw (show (ReadOperator.get key).key = key from rfl)
    (fun _ => show (ReadOperator.get key).held _ = .bytes data from rfl) (by simp) h
  rcases hagree.1 with hres | hres <;> rw [hres]
  · exact setLosers_keeps args.losers ttl
  · trivial

theorem getTTLRepair_keeps {args : RepairArgs} (herr : args.err = none)
    (hval : ∃ tt, args.value = .duration tt ∧ tt ≠ some 0) (hw : ∀ b ∈ args.winners, b ∈ nodes) :
    (getTTLRepair key args).Keeps (Holds key data nodes) (fun _ => False) := by
  obtain ⟨tt, hv, htt⟩ := hval
  unfold getTTLRepair
  rw [if_neg (by simp [herr]), if_neg (by simp [hv])]
  cases tt with
  | none =>
    simp only [hv, asDuration_duration, Except.ok_bind, deref_none, Prog.lift_error, Prog.bind_eq,
      Prog.panic_bind]
    trivial
  | some t =>
    have ht : t ≠ 0 := fun h => htt (by rw [h])
    simp only [hv, asDuration_duration, Except.ok_bind, deref_some, Prog.lift_ok, Prog.bind_eq,
      Prog.ret_bind, ht, if_false]
    exact setLosersFromWinners_keeps t hw

theorem performRead_keeps (svc : CoreService) (cluster : Cluster) {key : Key}
    (options : ReadOptions) (operator : ReadOperator) (repair : RepairOperator)
    (cmp : ValueComparer) {β : Type} {cont : Except Error Value → Prog β}
    (hcont : ∀ r, (cont r).Quiet) {P : Fleet → Prop} {F : Task → Prop}
    (hread : ∀ view, cluster.read key (svc.readConsistency options) = .ok view →
      ∀ fleet d o fleet', P fleet →
        QuorumEngine.read fleet d view.backends view.voteRequired operator cmp view.votingMode =
          .ok (o, fleet') → P fleet' ∧ ∀ args, o.args = some args → F (.repair repair args)) :
    ((svc.performRead cluster key options operator repair cmp).bind cont).Keeps P F := by
  unfold CoreService.performRead
  cases hv : cluster.read key (svc.readConsistency options) with
  | error e => exact (hcont _).keeps
  | ok view =>
    intro fleet d o fleet' hP h
    obtain ⟨hP', hF⟩ := hread view hv fleet d o fleet' hP h
    exact ⟨hP', fun _ args hr hargs => by cases hr; exact hF args hargs, (hcont _).keeps⟩

end Reads

section Requests

variable (svc : CoreService) (cluster : Cluster) {key : Key} {data : Bytes} {nodes : List Backend}

/-- What a hook fired while every backend of `nodes` holds `data` must do: keep it, firing
nothing. -/
abbrev HookKeeps (key : Key) (data : Bytes) (nodes : List Backend) (t : Task) : Prop :=
  t.prog.Keeps (Holds key data nodes) (fun _ => False)

variable (hreads : ∀ c rv, cluster.read key c = .ok rv → ∀ b ∈ rv.backends, b ∈ nodes)
include hreads

theorem get_keeps (r : GetRequest) (hkey : r.key = key) :
    (svc.get cluster r).Keeps (Holds key data nodes) (HookKeeps key data nodes) := by
  subst hkey
  refine performRead_keeps svc cluster _ _ _ _ (fun res => ?_) fun view hv fleet d o fleet' hH h =>
    ⟨read_holds (by simp) h hH, fun args hargs => (RepairOperator.run_quiet (.get r.key) ((read_no_losers hH
      (hreads _ view hv) (show (ReadOperator.get r.key).key = r.key from rfl)
      (fun _ => show (ReadOperator.get r.key).held _ = .bytes data from rfl) (by simp) h).2
        args hargs)).keeps⟩
  cases res with
  | error e => trivial
  | ok raw => exact Prog.quiet_lift_bind _ fun _ => trivial

theorem exists_keeps (r : ExistsRequest) (hkey : r.key = key) :
    (CoreService.exists svc cluster r).Keeps (Holds key data nodes) (HookKeeps key data nodes) := by
  subst hkey
  refine performRead_keeps svc cluster _ _ _ _ (fun res => ?_) fun view hv fleet d o fleet' hH h =>
    ⟨read_holds (by simp) h hH, fun args hargs => (RepairOperator.run_quiet (.exists r.key)
      ((read_no_losers hH (hreads _ view hv) (show (ReadOperator.exists r.key).key = r.key from rfl)
      (fun _ => show (ReadOperator.exists r.key).held _ = .bool true from rfl) (by simp) h).2
        args hargs)).keeps⟩
  rcases res with (_ | _) | raw
  all_goals first | trivial | exact Prog.quiet_lift_bind _ fun _ => trivial

theorem expire_keeps (r : ExpireRequest) (hkey : r.key = key) (hexp : r.expiration ≠ 0) :
    (svc.expire cluster r).Keeps (Holds key data nodes) (HookKeeps key data nodes) := by
  subst hkey
  refine performRead_keeps svc cluster _ _ _ _ (fun res => ?_) fun view hv fleet d o fleet' hH h =>
    ⟨read_holds (by rintro _ _ ⟨⟩; exact hexp) h hH, fun args hargs =>
      (RepairOperator.run_quiet (.expire r.key) ((read_no_losers hH (hreads _ view hv)
      (show (ReadOperator.expire r.key r.expiration).key = r.key from rfl)
      (fun _ => show (ReadOperator.expire r.key r.expiration).held _ = .bool true from rfl)
      (by simp) h).2 args hargs)).keeps⟩
  rcases res with (_ | _) | raw
  all_goals first | trivial | exact Prog.quiet_lift_bind _ fun _ => trivial

theorem getTTL_keeps (r : GetTTLRequest) (hkey : r.key = key) :
    (svc.getTTL cluster r).Keeps (Holds key data nodes) (HookKeeps key data nodes) := by
  subst hkey
  refine performRead_keeps svc cluster _ _ _ _ (fun res => ?_) fun view hv fleet d o fleet' hH h =>
    ⟨read_holds (by simp) h hH, fun args hargs => ?_⟩
  · cases res with
    | error e => trivial
    | ok raw =>
      show Prog.Quiet (if raw = Value.nil then _ else _)
      split
      · trivial
      · exact Prog.quiet_lift_bind _ fun _ => trivial
  · obtain ⟨herr, hval, hw⟩ := read_ttl_args hH (hreads _ view hv) h hargs
    exact getTTLRepair_keeps herr hval hw

/-- A read of the key keeps the value on every backend, and so do the repairs it fires. -/
theorem Request.exec_keeps {q : Request} (hq : q.readsKey key) {d : Dispatch}
    {fleet fleet' : Fleet} {fired : List Task} (hH : Holds key data nodes fleet)
    (h : q.exec svc cluster d fleet = .ok (fleet', fired)) :
    Holds key data nodes fleet' ∧ ∀ t ∈ fired, HookKeeps key data nodes t := by
  cases q with
  | set r => cases hq
  | delete r => cases hq
  | get r =>
    obtain ⟨⟨_, _, _⟩, hexec, h⟩ := Except.map_eq_ok.mp h
    cases h
    exact (get_keeps svc cluster hreads r (by simpa [Request.readsKey] using hq)).exec hH hexec
  | «exists» r =>
    obtain ⟨⟨_, _, _⟩, hexec, h⟩ := Except.map_eq_ok.mp h
    cases h
    exact (exists_keeps svc cluster hreads r (by simpa [Request.readsKey] using hq)).exec hH hexec
  | expire r =>
    obtain ⟨⟨_, _, _⟩, hexec, h⟩ := Except.map_eq_ok.mp h
    cases h
    simp only [Request.readsKey, Bool.and_eq_true, beq_iff_eq, bne_iff_ne] at hq
    exact (expire_keeps svc cluster hreads r hq.1 hq.2).exec hH hexec
  | getTTL r =>
    obtain ⟨⟨_, _, _⟩, hexec, h⟩ := Except.map_eq_ok.mp h
    cases h
    exact (getTTL_keeps svc cluster hreads r (by simpa [Request.readsKey] using hq)).exec hH hexec

theorem World.kept_step {w w' : World} {e : Event} (he : e.readsKey key)
    (hw : World.Kept (Holds key data nodes) w) (h : World.step svc cluster w e = some w') :
    World.Kept (Holds key data nodes) w' := by
  cases e with
  | advance j d => exact World.kept_advance hw h
  | issue q d =>
    simp only [World.step] at h
    split at h
    · rename_i fleet fired hexec
      cases h
      obtain ⟨hH, hF⟩ := Request.exec_keeps svc cluster hreads he hw.1 hexec
      refine ⟨hH, fun p hp => ?_⟩
      rcases List.mem_append.mp hp with hp | hp
      · exact hw.2 p hp
      · obtain ⟨t, ht, rfl⟩ := List.mem_map.mp hp
        exact hF t ht
    · cases h

end Requests

theorem set_all_holds (svc : CoreService) (cluster : Cluster) (request : SetRequest)
    {view : WriteView}
    (hview : cluster.write request.key (svc.writeConsistency request.options) = .ok view)
    (hall : view.backends.length ≤ view.acknowledgeRequired) {d : Dispatch}
    {fleet fleet₁ : Fleet} {tasks : List Task}
    (hset : (svc.set cluster request).exec [d] fleet = .ok (.ok (), fleet₁, tasks)) :
    Holds request.key request.data view.backends fleet₁ ∧ tasks = [] := by
  rw [set_exec svc cluster request hview, List.headD_cons,
    QuorumEngine.write_of_acts d (WriteOperator.acts_set _ _ _)
      (fun s => Store.set_set s _ _ _)] at hset
  by_cases hack : view.acknowledgeRequired ≤ (view.backends.filter fun b => !d.faulty b).length
  · simp only [hack, if_true, Functor.map, Except.map, Except.ok.injEq, Prod.mk.injEq] at hset
    obtain ⟨-, rfl, rfl⟩ := hset
    have hall' := List.filter_length_eq_length.mp
      (le_antisymm (List.length_filter_le _ _) (hall.trans hack))
    refine ⟨fun b hb => ⟨expiry request.expiration, ?_, expiry_ne_zero _⟩, rfl⟩
    simp [hb, by simpa using hall' b hb]
  · simp [hack, Functor.map, Except.map, Except.mapError] at hset

theorem get_returns (svc : CoreService) (cluster : Cluster) (g : GetRequest) {data : Bytes}
    {nodes : List Backend} {fleet : Fleet} (hH : Holds g.key data nodes fleet) {rv : ReadView}
    (hrv : cluster.read g.key (svc.readConsistency g.options) = .ok rv)
    (hrn : ∀ b ∈ rv.backends, b ∈ nodes) (hne : rv.backends ≠ [])
    (hvotes : rv.voteRequired ≤ rv.backends.length) (ds : List Dispatch)
    (hd : ∀ b ∈ rv.backends, (ds.headD .reliable).faulty b = false) :
    ∃ fleet' fired, (svc.get cluster g).exec ds fleet = .ok (.ok ⟨data⟩, fleet', fired) := by
  have hans : ∀ b ∈ rv.backends,
      QuorumEngine.answer (.get g.key) (ds.headD .reliable) fleet b = .ok (.bytes data) := by
    intro b hb
    obtain ⟨ttl, hs, -⟩ := hH b (hrn b hb)
    rw [QuorumEngine.answer_eq (hd b hb)]
    simp [ReadOperator.key, hs, ReadOperator.held]
  obtain ⟨o, a, hread, hres, -⟩ : ∃ o a, QuorumEngine.read fleet (ds.headD .reliable) rv.backends
      rv.voteRequired (.get g.key) byteComparer rv.votingMode = .ok (o, (QuorumEngine.dispatchRead
        (.get g.key) (ds.headD .reliable) rv.backends fleet).2) ∧ o.result = .ok (.bytes data) ∧
      o.args = some a ∧ a.losers = [] :=
    QuorumEngine.read_unanimous (.inl ⟨_, rfl, by simp⟩) hans hne hvotes
  unfold CoreService.get CoreService.performRead
  simp only [hrv, Engine.read, Prog.bind_eq, Prog.read_bind, Prog.ret_bind, Prog.exec_read, hread,
    Except.ok_bind, hres]
  exact ⟨_, _, rfl⟩

/-- A Set acknowledged under ALL, with nothing else in flight when it returns: through any run
after it that issues only reads of the key, its hooks' calls interleaved with them in any order,
every backend of its view holds its value, and a Get answered by every backend of a read view
among them returns it. -/
theorem acknowledged_set_durable (svc : CoreService) (cluster : Cluster) (request : SetRequest)
    {view : WriteView}
    (hview : cluster.write request.key (svc.writeConsistency request.options) = .ok view)
    (hall : view.backends.length ≤ view.acknowledgeRequired)
    (hreads : ∀ c rv, cluster.read request.key c = .ok rv → ∀ b ∈ rv.backends, b ∈ view.backends)
    {d : Dispatch} {fleet fleet₁ : Fleet} {tasks : List Task}
    (hset : (svc.set cluster request).exec [d] fleet = .ok (.ok (), fleet₁, tasks))
    (events : List Event) (hevents : ∀ e ∈ events, e.readsKey request.key) {w : World}
    (hrun : World.run svc cluster ⟨fleet₁, tasks.map Task.prog⟩ events = some w) :
    (∀ b ∈ view.backends, ∃ e, w.fleet b request.key = some e ∧ e.data = request.data) ∧
      ∀ g : GetRequest, g.key = request.key → ∀ rv,
        cluster.read g.key (svc.readConsistency g.options) = .ok rv → rv.backends ≠ [] →
          rv.voteRequired ≤ rv.backends.length → ∀ ds,
            (∀ b ∈ rv.backends, (ds.headD .reliable).faulty b = false) →
              ∃ fleet' fired, (svc.get cluster g).exec ds w.fleet =
                .ok (.ok ⟨request.data⟩, fleet', fired) := by
  obtain ⟨hH, rfl⟩ := set_all_holds svc cluster request hview hall hset
  have hkept := World.run_invariant (World.Kept (Holds request.key request.data view.backends))
    (fun e => e.readsKey request.key = true)
    (fun _ _ _ he hw h => World.kept_step svc cluster hreads he hw h) events _ w hevents
    ⟨hH, by simp⟩ hrun
  refine ⟨fun b hb => ?_, fun g hg rv hrv hne hvotes ds hd => ?_⟩
  · obtain ⟨ttl, hs, -⟩ := hkept.1 b hb
    exact ⟨_, hs, rfl⟩
  · exact get_returns svc cluster g (hg ▸ hkept.1) hrv (hreads _ rv (hg ▸ hrv)) hne hvotes ds hd

def cFails : Dispatch := ⟨fun b => b = replicaC, fun _ => 0⟩

/- Why an Expire to zero is not among the reads: where it reached a majority, GetTTL's repair
sees an agreed zero TTL and deletes the key on the losers. -/
example : ∃ w, World.run (CoreService.new []) trioCluster ⟨Fleet.empty, []⟩
    [.issue (.set ⟨"k", [2], 10000000000, {}⟩) .reliable, .issue (.expire ⟨"k", 0, {}⟩) cFails,
      .issue (.getTTL ⟨"k", {}⟩) .reliable, .advance 1 .reliable] = some w ∧
    w.fleet replicaC "k" = none :=
  ⟨_, rfl, rfl⟩

/-- Get, GetTTL and Expire `"k"`, and the first repair they fired runs its first call. -/
def readsAfterSet : List Event :=
  [.issue (.get ⟨"k", {}⟩) .reliable, .issue (.getTTL ⟨"k", {}⟩) .reliable,
    .issue (.expire ⟨"k", 5000000000, {}⟩) .reliable, .advance 0 .reliable]

theorem set_durable_on_pair :
    ∃ fleet₁ w, ((CoreService.new []).set pairCluster ⟨"k", [2], 10000000000, {}⟩).exec [.reliable]
        Fleet.empty = .ok (.ok (), fleet₁, []) ∧
      World.run (CoreService.new []) pairCluster ⟨fleet₁, []⟩ readsAfterSet = some w ∧
      ((∀ b ∈ [replicaA, replicaB], ∃ e, w.fleet b "k" = some e ∧ e.data = [2]) ∧
        ∀ g : GetRequest, g.key = "k" → ∀ rv,
          pairCluster.read g.key ((CoreService.new []).readConsistency g.options) = .ok rv →
            rv.backends ≠ [] → rv.voteRequired ≤ rv.backends.length → ∀ ds,
              (∀ b ∈ rv.backends, (ds.headD .reliable).faulty b = false) →
                ∃ fleet' fired, ((CoreService.new []).get pairCluster g).exec ds w.fleet =
                  .ok (.ok ⟨[2]⟩, fleet', fired)) :=
  ⟨_, _, rfl, rfl, @acknowledged_set_durable (CoreService.new []) pairCluster
    ⟨"k", [2], 10000000000, {}⟩ _
    rfl (by decide) (fun _ rv h => by cases h; exact fun _ hb => hb) .reliable Fleet.empty _ []
    rfl readsAfterSet
    (by decide) _ rfl⟩

/-- Set `"k"` to `[1]` while `b` fails: `a` acknowledged, and its Delete rollback is in flight. -/
def failedSet : Event := .issue (.set ⟨"k", [1], 0, {}⟩) bFails

/-- Set `"k"` to `[2]` with every backend answering; then the rollback makes its call and ends. -/
def rollbackAfterSet : List Event :=
  [.issue (.set ⟨"k", [2], 0, {}⟩) .reliable, .advance 0 .reliable, .advance 0 .reliable]

/-- The acknowledged Set of `[2]` under ALL is lost: once the earlier rollback has finished, `a`
holds nothing for `"k"`, and Get fails. -/
theorem rollback_loses_acknowledged_set :
    ∃ w₁ w, World.run (CoreService.new []) pairCluster ⟨Fleet.empty, []⟩ [failedSet] =
        some w₁ ∧
      (∃ fleet₂, ((CoreService.new []).set pairCluster ⟨"k", [2], 0, {}⟩).exec [.reliable]
        w₁.fleet = .ok (.ok (), fleet₂, [])) ∧
      World.run (CoreService.new []) pairCluster w₁ rollbackAfterSet = some w ∧ w.pending = [] ∧
      w.fleet replicaA "k" = none ∧
      (((CoreService.new []).get pairCluster ⟨"k", {}⟩).exec [] w.fleet).map (·.1) =
        .ok (.error ⟨.unavailable, .consistency⟩) :=
  ⟨_, _, rfl, ⟨_, rfl⟩, rfl, rfl, rfl, rfl⟩

end KeyValueStore
