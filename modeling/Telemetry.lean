import Telemetry.Main
import Telemetry.Proofs.Arguments
import Telemetry.Proofs.Arguments.Placement
import Telemetry.Proofs.Calendar
import Telemetry.Proofs.Calendar.Reading
import Telemetry.Proofs.Channel.Address
import Telemetry.Proofs.Channel.Host
import Telemetry.Proofs.Channel.LastSteps
import Telemetry.Proofs.Channel.NormalForm
import Telemetry.Proofs.Channel.Port
import Telemetry.Proofs.Channel.Steps
import Telemetry.Proofs.Channel.Tls
import Telemetry.Proofs.Client.Builder
import Telemetry.Proofs.Client.Counting
import Telemetry.Proofs.Client.Credentials
import Telemetry.Proofs.Client.Shutdown
import Telemetry.Proofs.Client.Twins
import Telemetry.Proofs.Credential.Base64
import Telemetry.Proofs.Credential.ServiceToken
import Telemetry.Proofs.Credential.Uuid
import Telemetry.Proofs.Environment.File
import Telemetry.Proofs.Json.Characters
import Telemetry.Proofs.Log.Directive
import Telemetry.Proofs.Log.Filter
import Telemetry.Proofs.Program.Command
import Telemetry.Proofs.Program.Settings
import Telemetry.Proofs.Report
import Telemetry.Proofs.Report.Lines
import Telemetry.Proofs.ServerName
import Telemetry.Proofs.Session.FrontEnd
import Telemetry.Proofs.Settings
import Telemetry.Proofs.Snapshot
import Telemetry.Proofs.Snapshot.Date
import Telemetry.Proofs.Uri
import Telemetry.Proofs.Uri.Authority
import Telemetry.Proofs.Value.Content
import Telemetry.Proofs.Value.Number
import Telemetry.Proofs.Value.Payload
import Telemetry.Proofs.Wire.Concatenation
import Telemetry.Proofs.Wire.Received
import Telemetry.Proofs.Wire.Truncation
import Telemetry.Proofs.Wire.Unknown
import Telemetry.Value.Payload
