import SentinelGateway.Library.Table
import SentinelGateway.Protocol.JsonRpc

/-!
# Request identifiers

Outbound requests carry identifiers of the gateway's own, drawn from a 64-bit
counter. `IdRemapper` remembers which client identifier each of them stands for
until the answer arrives.
-/

namespace SentinelGateway

/-- `IdRemapper`. The counter is the next identifier to hand out. -/
structure IdRemapper where
  counter : UInt64
  mappings : Table UInt64 (JsonRpcId × String)

namespace IdRemapper

/-- `IdRemapper::new`. -/
def new : IdRemapper := { counter := 1, mappings := ∅ }

/-- `IdRemapper::remap`: `fetch_add` wraps around, the entry is then inserted. -/
def remap (r : IdRemapper) (originalId : JsonRpcId) (backend : String) : IdRemapper × UInt64 :=
  ({ counter := r.counter + 1, mappings := r.mappings.insert r.counter (originalId, backend) },
    r.counter)

/-- `IdRemapper::restore`: the entry is removed by the first restore. -/
def restore (r : IdRemapper) (gatewayId : UInt64) : IdRemapper × Option (JsonRpcId × String) :=
  ({ r with mappings := r.mappings.erase gatewayId }, r.mappings.lookup gatewayId)

/-- `IdRemapper::pending_count`. -/
def pendingCount (r : IdRemapper) : ℕ := r.mappings.size

/-- Restoring an identifier just handed out returns the arguments of its remap,
and leaves the table as it was if the identifier was not in use. -/
theorem restore_remap (r : IdRemapper) (originalId : JsonRpcId) (backend : String) :
    (r.remap originalId backend).1.restore (r.remap originalId backend).2 =
      ({ counter := r.counter + 1,
         mappings := (r.mappings.insert r.counter (originalId, backend)).erase r.counter },
        some (originalId, backend)) := by
  simp [remap, restore]

end IdRemapper

end SentinelGateway
