import Allowlist.Config.Json
import Allowlist.Yaml.Decode
import Allowlist.Yaml.Node.Printer

/-! # Endpoint descriptors in YAML

Sets of endpoints are kept in YAML files. The fields are those of JSON; a set of which nothing is
written is empty. -/

namespace Allowlist

open Yaml

namespace DefaultSort

def ofNode (n : Node) : Decode DefaultSort := do
  match ← Decode.record fieldNames n with
  | [some key, some direction] =>
    return ⟨← Decode.string key, ← Decode.choice SortDirection.names direction⟩
  | _ => Decode.refuse

def toNode (s : DefaultSort) : Node :=
  .ofFields [("key", .ofString s.key), ("direction", .ofString s.direction.name)]

end DefaultSort

def presentNodes (fields : List (String × Option Node)) : List (String × Node) :=
  fields.filterMap fun (name, n) => n.map (name, ·)

namespace FilterDescriptor

def ofNode (n : Node) : Decode FilterDescriptor := do
  match ← Decode.record fieldNames n with
  | [some column, op, coerce] =>
    return { column := ← Decode.string column,
             op := ← Decode.withDefault (Decode.choice FilterOp.names) .eq op,
             coerce := ← Decode.optional (Decode.choice CoercionKind.names) coerce }
  | _ => Decode.refuse

def toNode (d : FilterDescriptor) : Node :=
  .ofFields (presentNodes [
    ("column", some (.ofString d.column)),
    ("op", some (.ofString d.op.name)),
    ("coerce", d.coerce.map (.ofString ·.name))])

end FilterDescriptor

namespace Endpoint

def ofNode (n : Node) : Decode Endpoint := do
  match ← Decode.record fieldNames n with
  | [filters, sortable, some defaultSort, defaultLimit, maxLimit] =>
    return { filters := ← Decode.withDefault (Decode.map FilterDescriptor.ofNode) ∅ filters,
             sortable := ← Decode.withDefault (Decode.map Decode.string) ∅ sortable,
             defaultSort := ← DefaultSort.ofNode defaultSort,
             defaultLimit := ← Decode.optional Decode.uint64 defaultLimit,
             maxLimit := ← Decode.optional Decode.uint64 maxLimit }
  | _ => Decode.refuse

def toNode (e : Endpoint) : Node :=
  .ofFields (presentNodes [
    ("filters", some (.ofFields (e.filters.entries.map fun (name, d) => (name, d.toNode)))),
    ("sortable", some (.ofFields (e.sortable.entries.map fun (k, column) => (k, .ofString column)))),
    ("default_sort", some e.defaultSort.toNode),
    ("default_limit", e.defaultLimit.map fun n => .ofNat n.toNat),
    ("max_limit", e.maxLimit.map fun n => .ofNat n.toNat)])

end Endpoint

namespace EndpointSet

def ofNode (n : Node) : Decode EndpointSet := do
  match ← Decode.record ["endpoints"] n with
  | [endpoints] => return ⟨← Decode.withDefault (Decode.map Endpoint.ofNode) ∅ endpoints⟩
  | _ => Decode.refuse

def toNode (s : EndpointSet) : Node :=
  .ofFields [("endpoints", .ofFields (s.endpoints.entries.map fun (name, e) => (name, e.toNode)))]

def parseYaml? (s : String) : Option EndpointSet :=
  (Document.parse? s).bind (Decode.run ofNode)

/-- What is said of a text that describes no endpoints. -/
def unreadableText : String := ""

def ofYaml (s : String) : Except ConfigError EndpointSet :=
  match parseYaml? s with
  | some endpoints => .ok endpoints
  | none => .error (.unreadable none unreadableText)

/-- The endpoints of a file; `content` is missing if there is no such file. -/
def ofFile (path : String) (content : Option String) : Except ConfigError EndpointSet :=
  match content with
  | none => .error (.io (path ++ ": No such file or directory (os error 2)"))
  | some s =>
    match parseYaml? s with
    | some endpoints => .ok endpoints
    | none => .error (.unreadable (some path) unreadableText)

def toYaml (s : EndpointSet) : String := String.ofList (s.toNode.render ++ ['\n'])

end EndpointSet

end Allowlist
