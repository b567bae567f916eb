import Telemetry.Snapshot
import Telemetry.Style

/-!
# Reports for people

A report is a heading and rows. A row is a label, whose column may be padded, and a content.
-/
namespace Telemetry.Report

def heading (color : Bool) (title : String) : List Char :=
  Style.bold.paint color title.toList ++ ['\n']

/-- A row whose content starts so many blanks after the colon. -/
def row (color : Bool) (label : String) (blanks : Nat) (content : List Char) : List Char :=
  ' ' :: ' ' :: (Style.dimmed.paint color label.toList ++
    ':' :: (List.replicate blanks ' ' ++ (content ++ ['\n'])))

def unknown : List Char := "(unknown)".toList

def dateText : Option Instant → List Char
  | none => unknown
  | some t => t.text ++ "+00:00".toList

def dataRows (color : Bool) : List (String × Json) → List Char
  | [] => []
  | (key, j) :: rest => row color key 1 (Json.print .compact 0 j) ++ dataRows color rest

/-- The report on a snapshot. Without data there is no second heading. -/
def ofSnapshot (color : Bool) (s : Snapshot) : String :=
  .ofList <|
    heading color "Stats" ++
    row color "Product" 2 (s.product.toList ++ ' ' :: s.version.toList) ++
    row color "Vendor" 3 s.vendor.toList ++
    row color "Commit" 3 s.commitSha.toList ++
    row color "Built" 4 s.buildDate.toList ++
    row color "Flavour" 2 (s.buildFlavour.name.toList.map Char.toLower) ++
    row color "Snapshot" 1 (dateText s.snapshotDate) ++
    if s.data.isEmpty then [] else '\n' :: (heading color "Data" ++ dataRows color s.data)

/-- The lines of the report on an acknowledgement from a target. -/
def ofAck (color : Bool) (target : String) (a : Ack) : List String :=
  [heading color "Connection",
    row color "Target" 4 target.toList,
    row color "Connected" 1
      (if a.connected then Style.green.paint color "yes".toList
        else Style.red.paint color "no".toList),
    row color "Instance" 2
      (if a.instanceUuid.isEmpty then Style.dimmed.paint color unknown else a.instanceUuid.toList)].map
    .ofList

end Telemetry.Report
