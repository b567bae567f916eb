/-!
# Errors of clients

What keeps a client from being built or from connecting, with the detail that is shown.
-/
namespace Telemetry

inductive ClientError where
  | invalidAddress (detail : String)
  | connectionFailed (detail : String)
  | invalidConfig (detail : String)
  | invalidServiceToken (detail : String)
  | runtime (detail : String)
  deriving DecidableEq

def ClientError.message : ClientError → String
  | invalidAddress detail => "invalid server address: " ++ detail
  | connectionFailed detail => "connection failed: " ++ detail
  | invalidConfig detail => "invalid channel configuration: " ++ detail
  | invalidServiceToken detail => "invalid service token: " ++ detail
  | runtime detail => "failed to start runtime: " ++ detail

end Telemetry
