import Allowlist.Proofs.Predicate.Induction
import Allowlist.Proofs.Predicate.Truth

/-! # Where two truth values do for three

`holds` takes an unknown comparison for a false one. That loses nothing: what is true in SQL holds,
and what is false does not. But the negation of a comparison with null is unknown in SQL and holds
here. `settle` makes that reading explicit: it takes the comparisons that are unknown on a record
for false ones, and what then comes out is what `holds` says. Under an even number of negations that
cannot make a condition true, under an odd number it can. -/

namespace Allowlist

namespace Truth

/-- Whether the second value is the first, or settles it where it is unknown. -/
def Settles (a b : Truth) : Prop := a = unknown ∨ a = b

variable {a b a' b' : Truth}

theorem Settles.refl (a : Truth) : Settles a a := .inr rfl

theorem Settles.not (h : Settles a a') : Settles a.not a'.not := by
  rcases h with rfl | rfl
  · exact .inl rfl
  · exact .inr rfl

theorem Settles.and (h : Settles a a') (h' : Settles b b') : Settles (a.and b) (a'.and b') := by
  rcases h with rfl | rfl <;> rcases h' with rfl | rfl
  · exact .inl rfl
  · cases b
    · exact .inr (by cases a' <;> rfl)
    all_goals exact .inl rfl
  · cases a
    · exact .inr (by cases b' <;> rfl)
    all_goals exact .inl rfl
  · exact .inr rfl

theorem Settles.or (h : Settles a a') (h' : Settles b b') : Settles (a.or b) (a'.or b') := by
  rcases h with rfl | rfl <;> rcases h' with rfl | rfl
  · exact .inl rfl
  · cases b
    case yes => exact .inr (by cases a' <;> rfl)
    all_goals exact .inl rfl
  · cases a
    case yes => exact .inr (by cases b' <;> rfl)
    all_goals exact .inl rfl
  · exact .inr rfl

/-- The place of a truth value between false and true. -/
def rank : Truth → Nat
  | no => 0
  | unknown => 1
  | yes => 2

theorem rank_not (a : Truth) : a.not.rank = 2 - a.rank := by cases a <;> rfl

theorem rank_and (a b : Truth) : (a.and b).rank = min a.rank b.rank := by
  cases a <;> cases b <;> rfl

theorem rank_or (a b : Truth) : (a.or b).rank = max a.rank b.rank := by
  cases a <;> cases b <;> rfl

/-- Whether the second truth value is at most the first, or at least the first if `odd` is set. -/
def Lowers (odd : Bool) (a b : Truth) : Prop := if odd then a.rank ≤ b.rank else b.rank ≤ a.rank

theorem Lowers.refl (odd : Bool) (a : Truth) : Lowers odd a a := by
  cases odd <;> exact Nat.le_refl _

theorem Lowers.not {odd : Bool} (h : Lowers (!odd) a a') : Lowers odd a.not a'.not := by
  cases odd <;> simp only [Lowers, rank_not, Bool.not_true, Bool.not_false, if_true,
    Bool.false_eq_true, if_false] at h ⊢ <;> omega

theorem Lowers.and {odd : Bool} (h : Lowers odd a a') (h' : Lowers odd b b') :
    Lowers odd (a.and b) (a'.and b') := by
  cases odd <;> simp only [Lowers, rank_and, if_true, Bool.false_eq_true, if_false] at h h' ⊢ <;> omega

theorem Lowers.or {odd : Bool} (h : Lowers odd a a') (h' : Lowers odd b b') :
    Lowers odd (a.or b) (a'.or b') := by
  cases odd <;> simp only [Lowers, rank_or, if_true, Bool.false_eq_true, if_false] at h h' ⊢ <;> omega

theorem Lowers.eq_yes (h : Lowers false a yes) : a = yes := by
  cases a with
  | yes => rfl
  | no | unknown => simp [Lowers, rank] at h

end Truth

namespace FieldValue
variable {a b : FieldValue}

theorem compareTruth_eq_yes {c : Comparison} :
    compareTruth c a b = .yes ↔ (a.compare? b).any c.accepts = true := by
  unfold compareTruth
  split
  · next h =>
    rcases Bool.or_eq_true_iff.mp h with h | h
    · rw [eq_null_of_isNull h, compare?_null_left]; simp
    · rw [eq_null_of_isNull h, compare?_null_right]; simp
  · exact Truth.ofBool_eq_yes

theorem compareTruth_eq_unknown {c : Comparison} :
    compareTruth c a b = .unknown ↔ a.isNull = true ∨ b.isNull = true := by
  unfold compareTruth
  split
  · next h => simpa using h
  · next h => simpa [Truth.ofBool_ne_unknown] using h

theorem compareTruth_eq (a b : FieldValue) :
    compareTruth .eq a b = .yes ↔ a.sqlEq b = true := by
  rw [compareTruth_eq_yes, sqlEq]
  cases a.compare? b with
  | none => simp
  | some o => cases o <;> simp [Comparison.accepts]

theorem inTruth_eq_yes {values : List FieldValue} :
    a.inTruth values = .yes ↔ values.any a.sqlEq = true := by
  rw [inTruth, Truth.any_eq_yes, List.mem_map, List.any_eq_true]
  exact exists_congr fun v => and_congr_right fun _ => compareTruth_eq a v

/-- Membership is unknown where no value of the list is equal and a null is on either side. -/
theorem inTruth_eq_unknown {values : List FieldValue} :
    a.inTruth values = .unknown ↔
      values.any a.sqlEq = false ∧ values ≠ [] ∧ (a.isNull = true ∨ values.any isNull = true) := by
  constructor
  · intro h
    have hyes : values.any a.sqlEq = false :=
      Bool.eq_false_iff.mpr fun e => by rw [inTruth_eq_yes.mpr e] at h; cases h
    obtain ⟨v, hv, hne⟩ : ∃ v ∈ values, compareTruth .eq a v ≠ .no := by
      refine Decidable.by_contra fun hno => ?_
      have : a.inTruth values = .no := Truth.any_eq_no.mpr fun t ht => by
        obtain ⟨v, hv, rfl⟩ := List.mem_map.mp ht
        exact Decidable.by_contra fun hne => hno ⟨v, hv, hne⟩
      rw [this] at h; cases h
    have hnull : a.isNull = true ∨ v.isNull = true := by
      refine compareTruth_eq_unknown (c := .eq).mp ?_
      cases ht : compareTruth .eq a v with
      | no => exact absurd ht hne
      | unknown => rfl
      | yes =>
        have := List.any_eq_false.mp hyes v hv
        exact absurd ((compareTruth_eq a v).mp ht) this
    refine ⟨hyes, List.ne_nil_of_mem hv, hnull.imp_right fun hn => ?_⟩
    exact List.any_eq_true.mpr ⟨v, hv, hn⟩
  · rintro ⟨hyes, hne, hnull⟩
    obtain ⟨v, hv, hn⟩ : ∃ v ∈ values, a.isNull = true ∨ v.isNull = true := by
      rcases hnull with hn | hn
      · obtain ⟨v, hv⟩ := List.exists_mem_of_ne_nil _ hne
        exact ⟨v, hv, .inl hn⟩
      · obtain ⟨v, hv, hn⟩ := List.any_eq_true.mp hn
        exact ⟨v, hv, .inr hn⟩
    cases ht : a.inTruth values with
    | unknown => rfl
    | yes => rw [inTruth_eq_yes.mp ht] at hyes; cases hyes
    | no =>
      have hno := Truth.any_eq_no.mp ht _ (List.mem_map_of_mem hv)
      rw [compareTruth_eq_unknown.mpr hn] at hno; cases hno

end FieldValue

namespace Predicate

/-- An atom, or the condition that never holds where the atom is unknown. -/
def settleAtom (record : Record) (p : Predicate) : Predicate :=
  if truth record p = .unknown then .any [] else p

mutual

/-- The condition with each comparison that is unknown on the record taken for a false one. -/
def settle (record : Record) : Predicate → Predicate
  | compare c column value => settleAtom record (compare c column value)
  | like column pattern => settleAtom record (like column pattern)
  | isIn column values => settleAtom record (isIn column values)
  | all conditions => all (settleAll record conditions)
  | any conditions => any (settleAll record conditions)
  | not condition => not (settle record condition)

/-- The conditions of a list with each unknown comparison taken for a false one. -/
def settleAll (record : Record) : List Predicate → List Predicate
  | [] => []
  | p :: rest => settle record p :: settleAll record rest

end

variable {record : Record}

/-! ### Atoms -/

theorem compareColumn?_eq (record : Record) (column : Column) (value : FieldValue) :
    compareColumn? record column value = (Record.column record column).compare? value := by
  unfold compareColumn? Record.column
  cases record.get? column with
  | none => exact (FieldValue.compare?_null_left value).symm
  | some v => rfl

theorem truth_compare_eq_yes (c : Comparison) (column : Column) (value : FieldValue) :
    truth record (compare c column value) = .yes ↔ holds record (compare c column value) = true := by
  rw [truth, holds, compareColumn?_eq]; exact FieldValue.compareTruth_eq_yes

theorem truth_like_eq_yes (column : Column) (pattern : String) :
    truth record (like column pattern) = .yes ↔ holds record (like column pattern) = true := by
  rw [truth, holds, likeColumn, Record.column]
  cases record.get? column with
  | none => simp [FieldValue.likeTruth, FieldValue.isNull]
  | some v =>
    cases v <;> simp [FieldValue.likeTruth, FieldValue.isNull, FieldValue.text?]

theorem truth_isIn_eq_yes (column : Column) (values : List FieldValue) :
    truth record (isIn column values) = .yes ↔ holds record (isIn column values) = true := by
  rw [truth, holds, inColumn, FieldValue.inTruth_eq_yes, Record.column]
  cases record.get? column with
  | none => simp [FieldValue.sqlEq, FieldValue.compare?_null_left]
  | some v => rfl

theorem truth_settleAtom {p : Predicate} (h : truth record p = .yes ↔ holds record p = true) :
    truth record (settleAtom record p) = .ofBool (holds record p) := by
  unfold settleAtom
  split
  · next hu =>
    have hf : holds record p = false := Bool.eq_false_iff.mpr fun e => by
      rw [h.mpr e] at hu; cases hu
    rw [hf]; rfl
  · next hu =>
    cases ht : truth record p with
    | unknown => exact absurd ht hu
    | yes => rw [h.mp ht]; rfl
    | no =>
      have hf : holds record p = false := Bool.eq_false_iff.mpr fun e => by
        rw [h.mpr e] at ht; cases ht
      rw [hf]; rfl

theorem settles_settleAtom (record : Record) (p : Predicate) :
    (truth record p).Settles (truth record (settleAtom record p)) := by
  unfold settleAtom
  split
  · next hu => exact .inl hu
  · exact .refl _

/-! ### All conditions -/

/-- With unknown comparisons taken for false ones, a condition is true exactly when it holds. -/
theorem truth_settle (record : Record) (p : Predicate) :
    truth record (settle record p) = .ofBool (holds record p) := by
  induction p with
  | compare c column value => exact truth_settleAtom (truth_compare_eq_yes c column value)
  | like column pattern => exact truth_settleAtom (truth_like_eq_yes column pattern)
  | isIn column values => exact truth_settleAtom (truth_isIn_eq_yes column values)
  | all ps ih =>
    rw [settle, truth, holds]
    induction ps with
    | nil => rfl
    | cons p rest ihr =>
      have hrest := ihr fun q hq => ih q (List.mem_cons_of_mem _ hq)
      rw [settleAll, truths, allHold, ← Truth.and_ofBool, ← hrest, ← ih p List.mem_cons_self]
      rfl
  | any ps ih =>
    rw [settle, truth, holds]
    induction ps with
    | nil => rfl
    | cons p rest ihr =>
      have hrest := ihr fun q hq => ih q (List.mem_cons_of_mem _ hq)
      rw [settleAll, truths, anyHolds, ← Truth.or_ofBool, ← hrest, ← ih p List.mem_cons_self]
      rfl
  | not p ih => rw [settle, truth, holds, ih, Truth.not_ofBool]

section
variable {related : Truth → Truth → Prop} {ps : List Predicate}

/-- What `and` preserves holds between a conjunction and the one with unknown comparisons settled. -/
theorem related_settle_all (hyes : related .yes .yes)
    (hand : ∀ {a a' b b' : Truth}, related a a' → related b b' → related (a.and b) (a'.and b'))
    (h : ∀ p ∈ ps, related (truth record p) (truth record (settle record p))) :
    related (truth record (.all ps)) (truth record (settle record (.all ps))) := by
  rw [settle, truth, truth]
  induction ps with
  | nil => exact hyes
  | cons p rest ih => exact hand (h p List.mem_cons_self) (ih fun q hq => h q (List.mem_cons_of_mem _ hq))

/-- What `or` preserves holds between a disjunction and the one with unknown comparisons settled. -/
theorem related_settle_any (hno : related .no .no)
    (hor : ∀ {a a' b b' : Truth}, related a a' → related b b' → related (a.or b) (a'.or b'))
    (h : ∀ p ∈ ps, related (truth record p) (truth record (settle record p))) :
    related (truth record (.any ps)) (truth record (settle record (.any ps))) := by
  rw [settle, truth, truth]
  induction ps with
  | nil => exact hno
  | cons p rest ih => exact hor (h p List.mem_cons_self) (ih fun q hq => h q (List.mem_cons_of_mem _ hq))

end

/-- Taking unknown comparisons for false ones changes no truth value but the unknown. -/
theorem settles_settle (record : Record) (p : Predicate) :
    (truth record p).Settles (truth record (settle record p)) := by
  induction p with
  | compare | like | isIn => exact settles_settleAtom record _
  | all ps ih => exact related_settle_all (.refl _) .and ih
  | any ps ih => exact related_settle_any (.refl _) .or ih
  | not p ih => exact ih.not

theorem ofBool_holds_of_truth_ne_unknown {p : Predicate} (h : truth record p ≠ .unknown) :
    .ofBool (holds record p) = truth record p := by
  rw [← truth_settle]
  exact ((settles_settle record p).resolve_left h).symm

/-- What holds is what is true in SQL, and besides it what is unknown there and comes out true once
each unknown comparison is taken for a false one. The two agree where the latter is not the case. -/
theorem holds_iff_truth (record : Record) (p : Predicate) :
    (holds record p = true ↔ truth record p = .yes ∨
        (truth record p = .unknown ∧ truth record (settle record p) = .yes)) ∧
      ((holds record p = true ↔ truth record p = .yes) ↔
        ¬(truth record p = .unknown ∧ truth record (settle record p) = .yes)) := by
  rw [truth_settle, Truth.ofBool_eq_yes]
  cases ht : truth record p with
  | unknown => simp
  | no =>
    have hne : truth record p ≠ .unknown := by simp [ht]
    have h := ofBool_holds_of_truth_ne_unknown hne
    rw [ht] at h
    cases hh : holds record p <;> simp_all [Truth.ofBool]
  | yes =>
    have hne : truth record p ≠ .unknown := by simp [ht]
    have h := ofBool_holds_of_truth_ne_unknown hne
    rw [ht] at h
    cases hh : holds record p <;> simp_all [Truth.ofBool]

/-- No comparison that is unknown on the record stands under an odd number of negations, where the
condition as a whole stands under an odd number of them if `odd` is set. -/
inductive UnknownsEven (record : Record) : (odd : Bool) → Predicate → Prop
  | compare {odd : Bool} {c : Comparison} {column : Column} {value : FieldValue}
      (h : odd = true → truth record (.compare c column value) ≠ .unknown) :
      UnknownsEven record odd (.compare c column value)
  | like {odd : Bool} {column : Column} {pattern : String}
      (h : odd = true → truth record (.like column pattern) ≠ .unknown) :
      UnknownsEven record odd (.like column pattern)
  | isIn {odd : Bool} {column : Column} {values : List FieldValue}
      (h : odd = true → truth record (.isIn column values) ≠ .unknown) :
      UnknownsEven record odd (.isIn column values)
  | all {odd : Bool} {ps : List Predicate} (h : ∀ p ∈ ps, UnknownsEven record odd p) :
      UnknownsEven record odd (.all ps)
  | any {odd : Bool} {ps : List Predicate} (h : ∀ p ∈ ps, UnknownsEven record odd p) :
      UnknownsEven record odd (.any ps)
  | not {odd : Bool} {p : Predicate} (h : UnknownsEven record (!odd) p) :
      UnknownsEven record odd (.not p)

theorem lowers_settleAtom {odd : Bool} {p : Predicate}
    (h : odd = true → truth record p ≠ .unknown) :
    Truth.Lowers odd (truth record p) (truth record (settleAtom record p)) := by
  unfold settleAtom
  split
  · next hu =>
    cases odd with
    | true => exact absurd hu (h rfl)
    | false => rw [hu]; exact Nat.zero_le _
  · exact .refl odd _

theorem lowers_settle {odd : Bool} {p : Predicate} (h : UnknownsEven record odd p) :
    Truth.Lowers odd (truth record p) (truth record (settle record p)) := by
  induction h with
  | compare h => exact lowers_settleAtom h
  | like h => exact lowers_settleAtom h
  | isIn h => exact lowers_settleAtom h
  | all _ ih => exact related_settle_all (.refl _ _) .and ih
  | any _ ih => exact related_settle_any (.refl _ _) .or ih
  | not _ ih => exact ih.not

/-- Negations that come in pairs around what is unknown do no harm. -/
theorem holds_iff_of_unknownsEven {p : Predicate} (h : UnknownsEven record false p) :
    holds record p = true ↔ truth record p = .yes := by
  rw [← Truth.ofBool_eq_yes, ← truth_settle]
  constructor
  · intro hs
    have hlow := lowers_settle h
    rw [hs] at hlow
    exact hlow.eq_yes
  · intro ht
    rcases settles_settle record p with hu | heq
    · rw [ht] at hu; cases hu
    · rw [← heq, ht]

/-- The negation of a comparison with null holds, but is unknown in SQL. -/
theorem not_forall_holds_iff_truth :
    ¬∀ (record : Record) (p : Predicate), holds record p = true ↔ truth record p = .yes := by
  intro h
  have hp := (h (.ofList [("price", .integer 1)]) (.not (.compare .eq "price" .null))).mp (by decide)
  exact absurd hp (by decide)

end Predicate

end Allowlist
