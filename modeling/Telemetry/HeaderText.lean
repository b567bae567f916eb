/-!
# Texts for request headers
-/
namespace Telemetry

/-- Whether a text may be sent in a header: of the control characters only the tab may. -/
def isHeaderText (s : String) : Bool :=
  s.toList.all fun c => c = '\t' || decide (32 ≤ c.toNat ∧ c.toNat ≠ 127)

end Telemetry
