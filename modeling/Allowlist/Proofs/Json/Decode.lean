import Allowlist.Config.Json
import Allowlist.Proofs.Json.Tree
import Allowlist.Proofs.OrderedMap.Union

/-! # What is written is decoded

The fields of a record that are there are found under their names, and those that were left out are
missing. A map is decoded entry by entry and keeps its order, since none of its names repeats. -/

namespace Allowlist

theorem mapM_map_eq_some {α β γ : Type} {f : α → β} {g : β → Option γ} {k : α → γ} {l : List α}
    (h : ∀ a ∈ l, g (f a) = some (k a)) : (l.map f).mapM g = some (l.map k) := by
  induction l with
  | nil => rfl
  | cons a l ih =>
    obtain ⟨ha, hl⟩ := List.forall_mem_cons.mp h
    rw [List.map_cons, List.mapM_cons, ha, ih hl]
    rfl

theorem OrderedMap.ofList_entries {α : Type} (m : OrderedMap α) : ofList m.entries = m :=
  m.empty_insertAll

namespace Json.Raw

variable {α : Type} {decode : Raw → Option α} {encode : α → Json}

/-! ### Single values -/

theorem uint64?_written (n : UInt64) : (ofUInt64 n).written.uint64? = some n := by
  have hnumber : (Numeral.ofInt n.toNat).toNumber? = some (.integer n.toNat) := by
    have hlt : n.toNat < wordCount := n.toNat_lt
    exact Numeral.toNumber?_ofInt (Int.le_trans (by decide) (Int.natCast_nonneg _))
      (Int.ofNat_lt.mpr hlt)
  simp only [ofUInt64, written, uint64?, hnumber, Int.natCast_nonneg, if_true, Int.toNat_natCast,
    UInt64.ofNat_toNat]

/-- What is there is not `null`, which would count as missing. -/
theorem optional?_written (hnull : decode .null = none)
    (h : ∀ a, decode (encode a).written = some a) (o : Option α) :
    optional? decode ((o.map encode).map written) = some o := by
  cases o with
  | none => rfl
  | some a =>
    have ha := h a
    rw [Option.map_some, Option.map_some]
    unfold optional?
    split
    · next heq => cases heq
    · next heq =>
      rw [Option.some.inj heq, hnull] at ha
      cases ha
    · next heq => rw [← Option.some.inj heq, ha, Option.map_some]

/-! ### Objects -/

theorem namedFields?_written (fields : List (String × Json)) :
    namedFields? (writtenFields fields) = some (fields.map fun f => (f.1, f.2.written)) := by
  rw [writtenFields_eq, namedFields?]
  exact mapM_map_eq_some fun _ _ => rfl

theorem map?_written (h : ∀ a, decode (encode a).written = some a) (m : OrderedMap α) :
    map? decode (Json.object (m.entries.map fun e => (e.1, encode e.2))).written = some m := by
  have hentries : ((m.entries.map fun e => (e.1, encode e.2)).map
      fun f => (f.1, f.2.written)).mapM (fun f => (decode f.2).map (f.1, ·)) = some m.entries := by
    rw [List.map_map, mapM_map_eq_some (k := id) fun e _ => ?_, List.map_id]
    simp [h]
  simp only [written, map?, namedFields?_written, Option.bind_eq_bind, Option.bind_some, hentries,
    Option.pure_def, m.ofList_entries]

section
variable {fields : List (String × Option Json)} {name : String} {o : Option Json}

theorem filter_present_of_not_mem (h : name ∉ fields.map Prod.fst) :
    ((presentFields fields).map fun f => (f.1, f.2.written)).filter (·.1 = name) = [] := by
  refine List.filter_eq_nil_iff.mpr fun f hf => ?_
  obtain ⟨g, hg, rfl⟩ := List.mem_map.mp hf
  obtain ⟨⟨k, o⟩, hfield, ho⟩ := List.mem_filterMap.mp hg
  obtain ⟨v, rfl, rfl⟩ := Option.map_eq_some_iff.mp ho
  have hk : k ∈ fields.map Prod.fst := List.mem_map_of_mem hfield
  simpa using fun heq : k = name => h (heq ▸ hk)

theorem filter_present (hnodup : (fields.map Prod.fst).Nodup) (h : (name, o) ∈ fields) :
    ((presentFields fields).map fun f => (f.1, f.2.written)).filter (·.1 = name) =
      (o.map fun v => (name, v.written)).toList := by
  induction fields with
  | nil => cases h
  | cons f fields ih =>
    obtain ⟨k, p⟩ := f
    obtain ⟨hfresh, hnodup⟩ := List.nodup_cons.mp hnodup
    have hcons (v : Json) : presentFields ((k, some v) :: fields) = (k, v) :: presentFields fields := rfl
    rcases List.mem_cons.mp h with heq | hmem
    · cases heq
      have hnone := filter_present_of_not_mem hfresh
      cases o with
      | none => exact hnone
      | some v => rw [hcons, List.map_cons, List.filter_cons_of_pos (by simp), hnone]; rfl
    · have hname : name ∈ fields.map Prod.fst := List.mem_map_of_mem hmem
      have hne : k ≠ name := fun heq => hfresh (heq ▸ hname)
      have hrest := ih hnodup hmem
      cases p with
      | none => exact hrest
      | some v => rw [hcons, List.map_cons, List.filter_cons_of_neg (by simpa using hne), hrest]

theorem record?_written {v : Json} {names : List String} (hv : v = .object (presentFields fields))
    (hnames : fields.map Prod.fst = names) (hnodup : names.Nodup) :
    v.written.record? names = some (fields.map fun f => f.2.map written) := by
  subst hv hnames
  simp only [written, record?, namedFields?_written, Option.bind_eq_bind, Option.bind_some]
  refine mapM_map_eq_some fun f hf => ?_
  rw [field?, filter_present hnodup hf]
  cases f.2 <;> rfl

end

end Json.Raw

end Allowlist
