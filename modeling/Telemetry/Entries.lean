/-!
# Entries ordered by key

A map from texts is the list of its entries in ascending order of their keys, each key once, so equal
maps are equal lists. Keys compare by code point, which is also the order of their UTF-8 bytes.
-/
namespace Telemetry.Entries

variable {α : Type}

/-- Sets the value of a key. -/
def put (key : String) (a : α) : List (String × α) → List (String × α)
  | [] => [(key, a)]
  | (k, b) :: rest =>
    if key < k then (key, a) :: (k, b) :: rest
    else if key = k then (key, a) :: rest
    else (k, b) :: put key a rest

/-- Sets the value of every entry of the second list in turn. -/
def putAll (base : List (String × α)) (entries : List (String × α)) : List (String × α) :=
  entries.foldl (fun acc e => put e.1 e.2 acc) base

/-- The map of a list of entries; of a repeated key the last one counts. -/
def ofList (entries : List (String × α)) : List (String × α) :=
  putAll [] entries

def get? (key : String) : List (String × α) → Option α
  | [] => none
  | (k, b) :: rest => if k = key then some b else get? key rest

/-- The keys ascend, so none is repeated. -/
def Ascending (entries : List (String × α)) : Prop :=
  entries.Pairwise fun a b => a.1 < b.1

end Telemetry.Entries
