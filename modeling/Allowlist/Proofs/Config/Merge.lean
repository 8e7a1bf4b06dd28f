import Allowlist.Config.Endpoint
import Allowlist.Proofs.OrderedMap.Union

/-! # Merged sets of endpoints

Merging appended lists of sets is writing the merge of the second list into that of the first. So
sets may be merged in groups, and of a name the last set that has it decides, whatever stands under
the name in the others. The names keep the places at which they first came. -/

namespace Allowlist.EndpointSet

variable {sets before after : List EndpointSet} {s : EndpointSet} {name : String}

theorem foldl_insertAll (sets : List EndpointSet) (m : OrderedMap Endpoint) :
    sets.foldl (fun merged s => merged.insertAll s.endpoints) m =
      m.insertAll (merge sets).endpoints := by
  induction sets generalizing m with
  | nil => exact (m.insertAll_empty).symm
  | cons s rest ih =>
    have hmerge : (merge (s :: rest)).endpoints =
        rest.foldl (fun merged s => merged.insertAll s.endpoints)
          ((∅ : OrderedMap Endpoint).insertAll s.endpoints) := rfl
    rw [hmerge, List.foldl_cons, ih, ih, OrderedMap.empty_insertAll, OrderedMap.insertAll_assoc]

theorem endpoints_merge_append (xs ys : List EndpointSet) :
    (merge (xs ++ ys)).endpoints = (merge xs).endpoints.insertAll (merge ys).endpoints := by
  show (xs ++ ys).foldl _ _ = _
  rw [List.foldl_append, foldl_insertAll]; rfl

theorem merge_singleton (s : EndpointSet) : merge [s] = s :=
  congrArg mk s.endpoints.empty_insertAll

theorem endpoints_merge_cons (s : EndpointSet) (rest : List EndpointSet) :
    (merge (s :: rest)).endpoints = s.endpoints.insertAll (merge rest).endpoints := by
  rw [← List.singleton_append, endpoints_merge_append, merge_singleton]

theorem keys_merge (sets : List EndpointSet) :
    (merge sets).endpoints.keys = (sets.flatMap (·.endpoints.keys)).eraseDups := by
  induction sets using List.reverseRecOn with
  | nil => rfl
  | append_singleton sets s ih =>
    have hnodup : (merge sets).endpoints.keys.Nodup := (merge sets).endpoints.nodup
    rw [endpoints_merge_append, merge_singleton, OrderedMap.keys_insertAll, List.eraseDups_append,
      eraseDups_of_nodup hnodup, ih, List.flatMap_append, List.flatMap_singleton,
      List.eraseDups_append]
    have hsame : s.endpoints.keys.removeAll (sets.flatMap (·.endpoints.keys)).eraseDups =
        s.endpoints.keys.removeAll (sets.flatMap (·.endpoints.keys)) := by
      refine List.filter_congr fun name _ => ?_
      simp
    rw [hsame]

/-- The last of the sets that have an endpoint of the name. -/
def IsLastWith (sets : List EndpointSet) (name : String) (s : EndpointSet) : Prop :=
  ∃ before after, sets = before ++ s :: after ∧ name ∈ s.endpoints.keys ∧
    ∀ t ∈ after, name ∉ t.endpoints.keys

theorem endpoint?_merge_eq_none (h : ∀ s ∈ sets, name ∉ s.endpoints.keys) :
    (merge sets).endpoint? name = none := by
  refine OrderedMap.get?_eq_none_iff.mpr fun hname => ?_
  rw [keys_merge, List.mem_eraseDups, List.mem_flatMap] at hname
  obtain ⟨s, hs, hname⟩ := hname
  exact h s hs hname

theorem endpoint?_merge_of_isLastWith (h : IsLastWith sets name s) :
    (merge sets).endpoint? name = s.endpoint? name := by
  obtain ⟨before, after, rfl, hname, hafter⟩ := h
  have hlater : (merge after).endpoints.get? name = none := endpoint?_merge_eq_none hafter
  obtain ⟨e, he⟩ : ∃ e, s.endpoints.get? name = some e :=
    Option.ne_none_iff_exists'.mp fun hnone => OrderedMap.get?_eq_none_iff.mp hnone hname
  rw [endpoint?, endpoint?, endpoints_merge_append, endpoints_merge_cons]
  simp only [OrderedMap.get?_insertAll, hlater, he, Option.none_or, Option.some_or]

theorem merge_group (before group after : List EndpointSet) :
    merge (before ++ merge group :: after) = merge (before ++ group ++ after) := by
  have hendpoints : (merge (before ++ merge group :: after)).endpoints =
      (merge (before ++ group ++ after)).endpoints := by
    rw [endpoints_merge_append, endpoints_merge_cons, endpoints_merge_append,
      endpoints_merge_append, OrderedMap.insertAll_assoc]
  exact congrArg mk hendpoints

/-- A merged set lists the names of all sets, each once, in the order in which they first came.
Under a name stands what the last set with that name has there, as a whole, and merging part of the
sets beforehand makes no difference. -/
theorem merged_names_and_endpoints :
    (∀ sets, (merge sets).endpoints.keys = (sets.flatMap (·.endpoints.keys)).eraseDups) ∧
    (∀ sets name s, IsLastWith sets name s →
      (merge sets).endpoint? name = s.endpoint? name ∧ (merge sets).build name = s.build name) ∧
    (∀ sets name, (∀ s ∈ sets, name ∉ s.endpoints.keys) →
      (merge sets).endpoint? name = none ∧
        (merge sets).build name = .error (.unknownEndpoint name)) ∧
    (∀ s, merge [s] = s) ∧
    ∀ before group after,
      merge (before ++ merge group :: after) = merge (before ++ group ++ after) := by
  refine ⟨keys_merge, fun sets name s h => ?_, fun sets name h => ?_, merge_singleton, merge_group⟩
  · have hsame := endpoint?_merge_of_isLastWith h
    exact ⟨hsame, by rw [build, build, hsame]⟩
  · have hnone := endpoint?_merge_eq_none h
    exact ⟨hnone, by rw [build, hnone]⟩

/-- An endpoint that sorts by its identifiers, with a maximum or none. -/
def endpointById (maxLimit : Option UInt64) : Endpoint :=
  { defaultSort := ⟨"id", .asc⟩, sortable := .ofList [("id", "row_id")], maxLimit := maxLimit }

def shop : EndpointSet := ⟨.ofList [("listings", endpointById (some 50)), ("orders", endpointById none)]⟩

def sale : EndpointSet := ⟨.ofList [("stock", endpointById (some 9)), ("listings", endpointById none)]⟩

def winter : EndpointSet := ⟨.ofList [("orders", endpointById (some 7)), ("stock", endpointById (some 0))]⟩

/-- Each two of three sets overlap. The maximum of a replaced endpoint is gone, and the last stock
builds no configuration. -/
theorem overlapping_sets_merge :
    let merged := merge [shop, sale, winter]
    merged.endpoints.keys = ["listings", "orders", "stock"] ∧
      IsLastWith [shop, sale, winter] "listings" sale ∧
      merged.endpoint? "listings" = some (endpointById none) ∧
      merged.build "stock" = .error (.invalidValue "max_limit" "0" "must be at least 1") ∧
      (∀ s ∈ [shop, sale, winter], "returns" ∉ s.endpoints.keys) ∧
      merged.build "returns" = .error (.unknownEndpoint "returns") ∧
      merge [shop, merge [sale, winter]] = merged := by
  intro merged
  obtain ⟨hkeys, hlast, hnone, -, hgroup⟩ := merged_names_and_endpoints
  have hlistings : IsLastWith [shop, sale, winter] "listings" sale :=
    ⟨[shop], [winter], rfl, by decide, by decide⟩
  have hstock : IsLastWith [shop, sale, winter] "stock" winter :=
    ⟨[shop, sale], [], rfl, by decide, by simp⟩
  have hreturns : ∀ s ∈ [shop, sale, winter], "returns" ∉ s.endpoints.keys := by decide
  refine ⟨?_, hlistings, ?_, ?_, hreturns, (hnone _ _ hreturns).2, ?_⟩
  · exact (hkeys _).trans (by decide)
  · exact (hlast _ _ _ hlistings).1
  · exact (hlast _ _ _ hstock).2
  · exact hgroup [shop] [sale, winter] []

end Allowlist.EndpointSet
