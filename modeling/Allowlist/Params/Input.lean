import Allowlist.Http.Target
import Allowlist.OrderedMap
import Allowlist.Url.Basic

/-! # Sources of parameters

The forms in which parameters come, and the one form they are brought to. -/

namespace Allowlist

/-- Parameters as they are given. -/
inductive QueryInput
  | pairs (pairs : QueryPairs)
  | url (url : Url)
  | request (target : Http.Target)
  | map (values : OrderedMap String)

namespace QueryInput

/-- The parameters; those of a map are sorted by name. -/
def normalize : QueryInput → QueryPairs
  | pairs p => p
  | url u => u.pairs
  | request t => t.pairs
  | map values =>
    .ofList (values.entries.foldl (fun sorted e => OrderedMap.insertSorted e.1 e.2 sorted) [])

end QueryInput

end Allowlist
