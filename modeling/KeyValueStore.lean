import KeyValueStore.Values
import KeyValueStore.Backend
import KeyValueStore.Program
import KeyValueStore.Service
import KeyValueStore.Comparers
import KeyValueStore.Engine
import KeyValueStore.EngineWrites
import KeyValueStore.Rollback
import KeyValueStore.EngineReads
import KeyValueStore.Safety
import KeyValueStore.ReadRepair
import KeyValueStore.LockRace
import KeyValueStore.LockExclusion
import KeyValueStore.Durability
import KeyValueStore.Deletion
import KeyValueStore.Isolation
import KeyValueStore.ReadQuorum
import KeyValueStore.Returns
import KeyValueStore.QuorumIntersection
import KeyValueStore.Flush
import KeyValueStore.Quiescence
import KeyValueStore.Refinement
