import Allowlist.Proofs.Json.Text

/-! # Values without doubles are read back

A rendered value is read as the tree of what is written for it. Arrays and objects come apart at
their commas: behind a member stands a comma or a closing bracket, with which no numeral goes on, so
the member is read as if it stood alone. The fuel of the reader counts characters, and a member is
shorter than what it stands in. -/

namespace Allowlist.Json

open Raw

mutual

/-- The tree that the text of a value is read as. -/
def written : Json → Raw
  | .null => .null
  | .bool b => .bool b
  | .number (.integer i) => .number (.ofInt i)
  | .number (.float x) => ((readNumeral (x.text floatLayout)).map fun n => .number n.1).getD .null
  | .string s => .string (some s)
  | .array items => .array (writtenItems items)
  | .object fields => .object (writtenFields fields)

def writtenItems : List Json → List Raw
  | [] => []
  | v :: items => written v :: writtenItems items

def writtenFields : List (String × Json) → List (Option String × Raw)
  | [] => []
  | (k, v) :: fields => (some k, written v) :: writtenFields fields

end

theorem writtenItems_eq (items : List Json) : writtenItems items = items.map written := by
  induction items with
  | nil => rfl
  | cons v items ih => rw [writtenItems, ih, List.map_cons]

theorem writtenFields_eq (fields : List (String × Json)) :
    writtenFields fields = fields.map fun f => (some f.1, f.2.written) := by
  induction fields with
  | nil => rfl
  | cons f fields ih => rw [writtenFields, ih, List.map_cons]

/-- A value in which all numbers are integers. -/
inductive NoDoubles : Json → Prop
  | null : NoDoubles .null
  | bool (b : Bool) : NoDoubles (.bool b)
  | integer (i : Int) : NoDoubles (.number (.integer i))
  | string (s : String) : NoDoubles (.string s)
  | array {items : List Json} (h : ∀ v ∈ items, NoDoubles v) : NoDoubles (.array items)
  | object {fields : List (String × Json)} (h : ∀ f ∈ fields, NoDoubles f.2) :
    NoDoubles (.object fields)

/-- The text of the value is read as its tree, whatever follows that a numeral does not go on with. -/
def ReadsBack (v : Json) : Prop :=
  ∀ fuel rest, (render v).length ≤ fuel → EndsNumeral rest →
    readValue fuel (render v ++ rest) = some (v.written, rest)

variable {v : Json} {rest : List Char}

theorem endsNumeral_cons {c : Char} (h : Text.isDigit c = false ∧ c ≠ '.' ∧ c ≠ 'e' ∧ c ≠ 'E') :
    EndsNumeral (c :: rest) :=
  fun _ hc => Option.some.inj hc ▸ h

/-- A value starts neither with a blank nor with the bracket that would close an array. -/
theorem NoDoubles.head (h : NoDoubles v) :
    ∃ c s, render v = c :: s ∧ isSpace c = false ∧ c ≠ ']' := by
  cases h with
  | null => exact ⟨_, _, rfl, by decide, by decide⟩
  | bool b => cases b <;> exact ⟨_, _, rfl, by decide, by decide⟩
  | string s => exact ⟨_, _, rfl, by decide, by decide⟩
  | integer i =>
    obtain ⟨c, digits, hdigits, hc⟩ := Text.exists_signedDecimal i
    refine ⟨c, digits, hdigits, Bool.eq_false_iff.mpr fun hblank => ?_, ?_⟩
    · simp only [isSpace, Bool.or_eq_true, decide_eq_true_eq] at hblank
      rcases hblank with ((rfl | rfl) | rfl) | rfl <;> exact absurd hc (by decide)
    · rintro rfl
      exact absurd hc (by decide)
  | @array items h => cases items <;> exact ⟨_, _, rfl, by decide, by decide⟩
  | @object fields h => cases fields <;> exact ⟨_, _, rfl, by decide, by decide⟩

/-! ### Members -/

theorem readItems_render (fuel : Nat) (rest : List Char) {items : List Json} (hv : ReadsBack v)
    (hitems : ∀ w ∈ items, ReadsBack w) (hfuel : (render v ++ renderItems items).length < fuel) :
    readItems fuel (render v ++ (renderItems items ++ ']' :: rest)) =
      some (v.written :: items.map written, rest) := by
  induction items generalizing v fuel with
  | nil =>
    obtain _ | fuel := fuel
    · omega
    simp only [renderItems, List.append_nil] at hfuel
    have hread := hv fuel (']' :: rest) (by omega) (endsNumeral_cons (by decide))
    rw [readItems, renderItems, List.nil_append, hread]
    rfl
  | cons w items ih =>
    obtain _ | fuel := fuel
    · omega
    obtain ⟨hw, hitems⟩ := List.forall_mem_cons.mp hitems
    simp only [renderItems, List.length_append, List.length_cons] at hfuel
    have hread := hv fuel (',' :: (render w ++ (renderItems items ++ ']' :: rest))) (by omega)
      (endsNumeral_cons (by decide))
    have hmore := ih fuel hw hitems (by rw [List.length_append]; omega)
    rw [readItems, renderItems, List.cons_append, List.cons_append, List.append_assoc, hread]
    simp only [skipSpace_cons (show isSpace ',' = false by decide), hmore, Option.map_some,
      List.map_cons]

theorem readString_renderString (k : String) : ∃ s, renderString k = '"' :: s ∧
    ∀ rest, readString none (s ++ rest) = some (some k.toList, rest) := by
  refine ⟨k.toList.flatMap escapeChar ++ ['"'], rfl, fun rest => ?_⟩
  rw [List.append_assoc]
  exact readString_flatMap k.toList

theorem readFields_render (fuel : Nat) (rest : List Char) {k : String}
    {fields : List (String × Json)} (hv : ReadsBack v) (hfields : ∀ f ∈ fields, ReadsBack f.2)
    (hfuel : (renderString k ++ ':' :: (render v ++ renderFields fields)).length < fuel) :
    readFields fuel (renderString k ++ ':' :: (render v ++ (renderFields fields ++ '\x7d' :: rest))) =
      some ((some k, v.written) :: fields.map fun f => (some f.1, f.2.written), rest) := by
  induction fields generalizing k v fuel with
  | nil =>
    obtain _ | fuel := fuel
    · omega
    obtain ⟨s, hs, hkey⟩ := readString_renderString k
    simp only [renderFields, List.append_nil, List.length_append, List.length_cons] at hfuel
    have hread := hv fuel ('\x7d' :: rest) (by omega) (endsNumeral_cons (by decide))
    rw [readFields, hs, List.cons_append, renderFields, List.nil_append]
    simp only [skipSpace_cons (show isSpace '"' = false by decide), hkey,
      skipSpace_cons (show isSpace ':' = false by decide), hread,
      skipSpace_cons (show isSpace '\x7d' = false by decide), Option.map_some, String.ofList_toList,
      List.map_nil]
  | cons f fields ih =>
    obtain _ | fuel := fuel
    · omega
    obtain ⟨hw, hfields⟩ := List.forall_mem_cons.mp hfields
    obtain ⟨s, hs, hkey⟩ := readString_renderString k
    simp only [renderFields, List.length_append, List.length_cons, List.length_nil] at hfuel
    have hread := hv fuel (',' :: (renderString f.1 ++ ':' ::
      (render f.2 ++ (renderFields fields ++ '\x7d' :: rest)))) (by omega) (endsNumeral_cons (by decide))
    have hmore := ih fuel (k := f.1) hw hfields
      (by simp only [List.length_append, List.length_cons]; omega)
    rw [readFields, hs, List.cons_append, renderFields]
    simp only [List.append_assoc, List.cons_append, List.nil_append]
    simp only [skipSpace_cons (show isSpace '"' = false by decide), hkey,
      skipSpace_cons (show isSpace ':' = false by decide), hread,
      skipSpace_cons (show isSpace ',' = false by decide), hmore, Option.map_some,
      String.ofList_toList, List.map_cons]

/-! ### Values -/

theorem ReadsBack.intro (hne : render v ≠ [])
    (h : ∀ fuel rest, (render v).length ≤ fuel + 1 → EndsNumeral rest →
      readValue (fuel + 1) (render v ++ rest) = some (v.written, rest)) : ReadsBack v := by
  intro fuel rest hfuel hrest
  obtain _ | fuel := fuel
  · exact absurd (List.eq_nil_of_length_eq_zero (Nat.le_zero.mp hfuel)) hne
  · exact h fuel rest hfuel hrest

theorem ReadsBack.array {items : List Json} (h : ∀ v ∈ items, NoDoubles v)
    (hread : ∀ v ∈ items, ReadsBack v) : ReadsBack (.array items) := by
  cases items with
  | nil => exact .intro (List.cons_ne_nil _ _) fun _ _ _ _ => rfl
  | cons v items =>
    obtain ⟨hv, hitems⟩ := List.forall_mem_cons.mp hread
    obtain ⟨c, s, hs, hspace, hbracket⟩ := (h v List.mem_cons_self).head
    refine .intro (List.cons_ne_nil _ _) fun fuel rest hfuel _ => ?_
    simp only [render, List.length_cons, List.length_append, List.length_nil] at hfuel
    have hmembers := readItems_render fuel rest hv hitems
      (by rw [List.length_append]; omega)
    simp only [render, List.append_assoc, List.cons_append, List.nil_append, written, writtenItems_eq]
    rw [readValue, skipSpace_cons (by decide)]
    simp only
    rw [hs, List.cons_append] at hmembers ⊢
    rw [skipSpace_cons hspace]
    split
    · next heq => exact absurd (List.cons.inj heq).1 hbracket
    · rw [hmembers]
      rfl

theorem ReadsBack.object {fields : List (String × Json)} (hread : ∀ f ∈ fields, ReadsBack f.2) :
    ReadsBack (.object fields) := by
  cases fields with
  | nil => exact .intro (List.cons_ne_nil _ _) fun _ _ _ _ => rfl
  | cons f fields =>
    obtain ⟨hv, hfields⟩ := List.forall_mem_cons.mp hread
    obtain ⟨s, hs, -⟩ := readString_renderString f.1
    refine .intro (List.cons_ne_nil _ _) fun fuel rest hfuel _ => ?_
    simp only [render, List.length_cons, List.length_append, List.length_nil] at hfuel
    have hmembers := readFields_render fuel rest (k := f.1) hv hfields
      (by simp only [List.length_append, List.length_cons]; omega)
    simp only [render, List.append_assoc, List.cons_append, List.nil_append, written, writtenFields_eq]
    rw [readValue, skipSpace_cons (by decide)]
    simp only
    rw [hs, List.cons_append] at hmembers ⊢
    rw [skipSpace_cons (by decide)]
    split
    · next heq => exact absurd (List.cons.inj heq).1 (by decide)
    · rw [hmembers]
      rfl

theorem NoDoubles.readsBack (h : NoDoubles v) : ReadsBack v := by
  induction h with
  | null => exact .intro (List.cons_ne_nil _ _) fun _ _ _ _ => rfl
  | bool b => cases b <;> exact .intro (List.cons_ne_nil _ _) fun _ _ _ _ => rfl
  | string s => exact .intro (List.cons_ne_nil _ _) fun fuel _ _ _ => readValue_string fuel s
  | integer i =>
    obtain ⟨c, digits, hdigits, -⟩ := Text.exists_signedDecimal i
    have hne : Text.signedDecimal i ≠ [] := hdigits ▸ List.cons_ne_nil c digits
    exact .intro hne fun fuel _ _ hrest => readValue_integer fuel i hrest
  | array h ih => exact .array h ih
  | object _ ih => exact .object ih

theorem parse?_render (h : NoDoubles v) : Raw.parse? (render v) = some v.written := by
  have hread := h.readsBack (2 * (render v).length + 2) [] (by omega) nofun
  rw [List.append_nil] at hread
  rw [Raw.parse?, hread]
  rfl

end Allowlist.Json
