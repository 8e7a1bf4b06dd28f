import Allowlist.Listing.Page
import Allowlist.Proofs.Json.Decode

/-! # Page facts and descriptors survive JSON

Each record is an object of named fields, some of which may be absent, and is decoded by the same
names. So reading the compact text of a page's facts, of a default order or of an endpoint gives it
back. What is absent leaves no field in the text, and a map is written in its own order. -/

namespace Allowlist

open Json

namespace Json

/-- What a reader of trees makes of a text. -/
def decodeText? {α : Type} (decode : Raw → Option α) (s : String) : Option α :=
  (Raw.parse? s.toList).bind decode

/-- The part of a tree that is reached by the names of object fields. -/
def Raw.at? : List String → Raw → Option Raw
  | [], v => some v
  | name :: path, .object fields =>
    (namedFields? fields).bind fun named => (named.lookup name).bind (at? path)
  | _ :: _, _ => none

def Raw.fieldNames? : Raw → Option (List String)
  | .object fields => (namedFields? fields).map (·.map Prod.fst)
  | _ => none

/-- The names of the fields that a text has in an object, in the order in which they stand there. -/
def namesAt? (path : List String) (s : String) : Option (List String) :=
  decodeText? (fun v => (v.at? path).bind Raw.fieldNames?) s

section
variable {v : Json} {fields : List (String × Json)}

theorem decodeText?_text {α : Type} {decode : Raw → Option α} (h : v.NoDoubles) :
    decodeText? decode v.text = decode v.written := by
  rw [decodeText?, text, String.toList_ofList, parse?_render h, Option.bind_some]

theorem at?_written (name : String) (path : List String) :
    (Json.object fields).written.at? (name :: path) =
      (fields.lookup name).bind fun v => v.written.at? path := by
  rw [written, Raw.at?, Raw.namedFields?_written, Option.bind_some, OrderedMap.lookup_map_snd, Option.bind_map]
  rfl

theorem fieldNames?_written : (Json.object fields).written.fieldNames? = some (fields.map Prod.fst) := by
  rw [written, Raw.fieldNames?, Raw.namedFields?_written, Option.map_some, List.map_map]
  rfl

theorem namesAt?_nil (h : (Json.object fields).NoDoubles) :
    namesAt? [] (Json.object fields).text = some (fields.map Prod.fst) := by
  rw [namesAt?, decodeText?_text h]
  exact fieldNames?_written

theorem namesAt?_cons (h : (Json.object fields).NoDoubles) (name : String) (path : List String) :
    namesAt? (name :: path) (Json.object fields).text =
      (fields.lookup name).bind fun v => (v.written.at? path).bind Raw.fieldNames? := by
  rw [namesAt?, decodeText?_text h, at?_written, Option.bind_assoc]

theorem fieldNames?_map {α : Type} (encode : α → Json) (m : OrderedMap α) :
    (Json.object (m.entries.map fun e => (e.1, encode e.2))).written.fieldNames? = some m.keys := by
  rw [fieldNames?_written, List.map_map]
  rfl

theorem at?_map {α : Type} (encode : α → Json) (m : OrderedMap α) (name : String) :
    (Json.object (m.entries.map fun e => (e.1, encode e.2))).written.at? [name] =
      (m.get? name).map fun a => (encode a).written := by
  rw [at?_written, OrderedMap.lookup_map_snd, OrderedMap.get?]
  cases m.entries.lookup name <;> rfl

theorem noDoubles_present (fields : List (String × Option Json))
    (h : ∀ f ∈ fields, ∀ v ∈ f.2, NoDoubles v) : (Json.object (presentFields fields)).NoDoubles := by
  refine .object fun f hf => ?_
  obtain ⟨g, hg, hfield⟩ := List.mem_filterMap.mp hf
  obtain ⟨v, hv, rfl⟩ := Option.map_eq_some_iff.mp hfield
  exact h g hg v hv

theorem noDoubles_map {α : Type} {encode : α → Json} (h : ∀ a, (encode a).NoDoubles)
    (entries : List (String × α)) :
    (Json.object (entries.map fun e => (e.1, encode e.2))).NoDoubles := by
  refine .object fun f hf => ?_
  obtain ⟨e, -, rfl⟩ := List.mem_map.mp hf
  exact h e.2

theorem noDoubles_ofUInt64 (n : UInt64) : (ofUInt64 n).NoDoubles := .integer _

end

end Json

/-! ### Facts of a page -/

namespace PageMeta

def fields (m : PageMeta) : List (String × Option Json) :=
  [("total", some (ofUInt64 m.total)), ("limit", some (ofUInt64 m.limit)),
    ("offset", some (ofUInt64 m.offset)), ("has_more", some (.bool m.hasMore)),
    ("next_offset", m.nextOffset.map ofUInt64)]

theorem toJson_eq (m : PageMeta) : m.toJson = .object (presentFields m.fields) := by
  obtain ⟨_, _, _, _, _ | _⟩ := m <;> rfl

theorem noDoubles (m : PageMeta) : m.toJson.NoDoubles := by
  rw [toJson_eq]
  refine noDoubles_present m.fields ?_
  simp [fields, NoDoubles.bool, noDoubles_ofUInt64]

theorem ofRaw?_written (m : PageMeta) : ofRaw? m.toJson.written = some m := by
  have hrecord : m.toJson.written.record? fieldNames = some (m.fields.map fun f => f.2.map written) :=
    Raw.record?_written m.toJson_eq rfl (by decide)
  have hnext := Raw.optional?_written rfl Raw.uint64?_written m.nextOffset
  simp only [ofRaw?, hrecord, fields, List.map_cons, List.map_nil, Option.map_some, Raw.uint64?_written,
    hnext, Option.bind_eq_bind, Option.bind_some, Option.pure_def]
  rfl

end PageMeta

/-! ### Descriptors -/

namespace DefaultSort

def fields (s : DefaultSort) : List (String × Option Json) :=
  [("key", some (.string s.key)), ("direction", some (.string s.direction.name))]

theorem noDoubles (s : DefaultSort) : s.toJson.NoDoubles :=
  noDoubles_present s.fields (by simp [fields, NoDoubles.string])

theorem ofRaw?_written (s : DefaultSort) : ofRaw? s.toJson.written = some s := by
  have hrecord : s.toJson.written.record? fieldNames = some (s.fields.map fun f => f.2.map written) :=
    Raw.record?_written rfl rfl (by decide)
  have hdirection : SortDirection.names.lookup s.direction.name = some s.direction := by
    cases s.direction <;> rfl
  simp only [ofRaw?, hrecord, fields, List.map_cons, List.map_nil, Option.map_some, written,
    Raw.string?, Raw.choice?, hdirection, Option.bind_eq_bind, Option.bind_some, Option.pure_def]

end DefaultSort

namespace FilterDescriptor

def fields (d : FilterDescriptor) : List (String × Option Json) :=
  [("column", some (.string d.column)), ("op", some (.string d.op.name)),
    ("coerce", d.coerce.map (.string ·.name))]

theorem noDoubles (d : FilterDescriptor) : d.toJson.NoDoubles :=
  noDoubles_present d.fields (by simp [fields, NoDoubles.string])

theorem choice?_op (op : FilterOp) :
    (Json.string op.name).written.choice? FilterOp.names = some op := by
  cases op <;> rfl

theorem choice?_coercion (kind : CoercionKind) :
    (Json.string kind.name).written.choice? CoercionKind.names = some kind := by
  cases kind <;> rfl

theorem ofRaw?_written (d : FilterDescriptor) : ofRaw? d.toJson.written = some d := by
  have hrecord : d.toJson.written.record? fieldNames = some (d.fields.map fun f => f.2.map written) :=
    Raw.record?_written rfl rfl (by decide)
  have hcoerce := Raw.optional?_written rfl choice?_coercion d.coerce
  simp only [ofRaw?, hrecord, fields, List.map_cons, List.map_nil, Option.map_some, Raw.withDefault?,
    choice?_op, hcoerce, Option.bind_eq_bind, Option.bind_some, Option.pure_def]
  rfl

theorem fieldNames?_written (d : FilterDescriptor) : d.toJson.written.fieldNames? =
    some (["column", "op"] ++ (d.coerce.map fun _ => "coerce").toList) := by
  refine Json.fieldNames?_written.trans ?_
  obtain ⟨_, _, _ | _⟩ := d <;> rfl

end FilterDescriptor

namespace Endpoint

def fields (e : Endpoint) : List (String × Option Json) :=
  [("filters", some (.object (e.filters.entries.map fun (name, d) => (name, d.toJson)))),
    ("sortable", some (.object (e.sortable.entries.map fun (key, column) => (key, .string column)))),
    ("default_sort", some e.defaultSort.toJson),
    ("default_limit", e.defaultLimit.map ofUInt64),
    ("max_limit", e.maxLimit.map ofUInt64)]

theorem noDoubles (e : Endpoint) : e.toJson.NoDoubles := by
  have hfilters := noDoubles_map FilterDescriptor.noDoubles e.filters.entries
  have hsortable := noDoubles_map NoDoubles.string e.sortable.entries
  refine noDoubles_present e.fields ?_
  simp [fields, hfilters, hsortable, e.defaultSort.noDoubles, noDoubles_ofUInt64]

theorem ofRaw?_written (e : Endpoint) : ofRaw? e.toJson.written = some e := by
  have hrecord : e.toJson.written.record? fieldNames = some (e.fields.map fun f => f.2.map written) :=
    Raw.record?_written rfl rfl (by decide)
  have hfilters := Raw.map?_written FilterDescriptor.ofRaw?_written e.filters
  have hsortable : Raw.map? Raw.string?
      (Json.object (e.sortable.entries.map fun s => (s.1, .string s.2))).written = some e.sortable :=
    Raw.map?_written (fun _ => rfl) e.sortable
  have hlimit := Raw.optional?_written rfl Raw.uint64?_written e.defaultLimit
  have hmax := Raw.optional?_written rfl Raw.uint64?_written e.maxLimit
  simp only [ofRaw?, hrecord, fields, List.map_cons, List.map_nil, Option.map_some, Raw.withDefault?,
    hfilters, hsortable, DefaultSort.ofRaw?_written, hlimit, hmax, Option.bind_eq_bind,
    Option.bind_some, Option.pure_def]

end Endpoint

/-! ### Both ways -/

/-- The facts of a page, a default order and an endpoint are read from their text as they were, an
endpoint with the order of its maps, so that it builds the same configuration. The text has a field
for an option exactly if it is set. -/
theorem json_text_restores_records :
    (∀ m : PageMeta, decodeText? PageMeta.ofRaw? m.toJson.text = some m ∧
      namesAt? [] m.toJson.text = some (["total", "limit", "offset", "has_more"] ++
        (m.nextOffset.map fun _ => "next_offset").toList)) ∧
    (∀ s : DefaultSort, decodeText? DefaultSort.ofRaw? s.toJson.text = some s) ∧
    ∀ e : Endpoint, decodeText? Endpoint.ofRaw? e.toJson.text = some e ∧
      (decodeText? Endpoint.ofRaw? e.toJson.text).map Endpoint.build = some e.build ∧
      namesAt? [] e.toJson.text = some (["filters", "sortable", "default_sort"] ++
        (e.defaultLimit.map fun _ => "default_limit").toList ++
        (e.maxLimit.map fun _ => "max_limit").toList) ∧
      namesAt? ["filters"] e.toJson.text = some e.filters.keys ∧
      namesAt? ["sortable"] e.toJson.text = some e.sortable.keys ∧
      ∀ name, namesAt? ["filters", name] e.toJson.text = (e.filters.get? name).map fun d =>
        ["column", "op"] ++ (d.coerce.map fun _ => "coerce").toList := by
  refine ⟨fun m => ⟨?_, ?_⟩, fun s => ?_, fun e => ?_⟩
  · rw [decodeText?_text m.noDoubles, m.ofRaw?_written]
  · have hpage := m.noDoubles
    rw [m.toJson_eq] at hpage ⊢
    rw [namesAt?_nil hpage]
    obtain ⟨_, _, _, _, _ | _⟩ := m <;> rfl
  · rw [decodeText?_text s.noDoubles, s.ofRaw?_written]
  have hread : decodeText? Endpoint.ofRaw? e.toJson.text = some e := by
    rw [decodeText?_text e.noDoubles, e.ofRaw?_written]
  refine ⟨hread, by rw [hread, Option.map_some], ?_, ?_, ?_, fun name => ?_⟩
  · rw [Endpoint.toJson, namesAt?_nil e.noDoubles]
    obtain ⟨_, _, _, _ | _, _ | _⟩ := e <;> rfl
  · rw [Endpoint.toJson, namesAt?_cons e.noDoubles]
    exact fieldNames?_map _ e.filters
  · rw [Endpoint.toJson, namesAt?_cons e.noDoubles]
    exact fieldNames?_map _ e.sortable
  · rw [Endpoint.toJson, namesAt?_cons e.noDoubles]
    refine (congrArg (Option.bind · Raw.fieldNames?) (at?_map _ e.filters name)).trans ?_
    cases e.filters.get? name with
    | none => rfl
    | some d => exact d.fieldNames?_written

example : (DefaultSort.toJson ⟨"\"é\n", .desc⟩).text =
    "\x7b\"key\":\"\\\"é\\n\",\"direction\":\"desc\"\x7d" := by rfl

end Allowlist
