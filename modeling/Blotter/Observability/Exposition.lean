import Blotter.Decimal.Text
import Blotter.Observability.SocketAddress

/-!
# Offering metrics

Where metrics are offered and into which classes latencies fall.
-/

namespace Blotter

/-- Settings of the place where metrics are offered. -/
structure Exposition where
  address : SocketAddress
  /-- The upper ends of the latency classes in seconds. -/
  buckets : List Decimal
deriving DecidableEq

namespace Exposition

/-- The usual classes: from ten microseconds up to a second, two for each power of ten. -/
def latencyBuckets : List Decimal :=
  [(1, 5), (5, 5), (1, 4), (5, 4), (1, 3), (5, 3), (1, 2), (5, 2), (1, 1), (5, 1), (1, 0)].filterMap
    fun (coefficient, scale) => Decimal.ofParts? false coefficient scale

/-- Metrics are offered at an address in the usual classes. -/
def atAddress (address : SocketAddress) : Exposition := ⟨address, latencyBuckets⟩

end Exposition

end Blotter
