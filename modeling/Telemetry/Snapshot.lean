import Telemetry.Calendar
import Telemetry.Json.Printer

/-!
# Snapshots of statistics

A snapshot is what a stats message means: an unknown flavour counts as none, a stamp that is no point
in time as absent, and the data are a JSON object.
-/
namespace Telemetry

structure Snapshot where
  product : String
  version : String
  vendor : String
  commitSha : String
  buildDate : String
  buildFlavour : BuildFlavour
  snapshotDate : Option Instant
  data : List (String × Json)

namespace Snapshot

def ofStats (s : Stats) : Snapshot where
  product := s.product
  version := s.version
  vendor := s.vendor
  commitSha := s.commitSha
  buildDate := s.buildDate
  buildFlavour := (BuildFlavour.ofNumber? s.buildFlavour).getD .none
  snapshotDate := s.snapshotDate.bind Timestamp.toInstant?
  data := Value.toJsonFields (s.data.getD [])

/-- The date of a document, in universal time. -/
def dateToJson : Option Instant → Json
  | none => .null
  | some t => .string (.ofList (t.text ++ ['Z']))

/-- The document of a snapshot, its members in a fixed order. -/
def toJson (s : Snapshot) : Json :=
  .object [("product", .string s.product), ("version", .string s.version),
    ("vendor", .string s.vendor), ("commit_sha", .string s.commitSha),
    ("build_date", .string s.buildDate), ("build_flavour", .string s.buildFlavour.name),
    ("snapshot_date", dateToJson s.snapshotDate), ("data", .object s.data)]

end Snapshot
end Telemetry
