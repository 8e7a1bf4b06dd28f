import Allowlist.Proofs.Predicate.Induction
import Allowlist.Proofs.Sql.Statement

/-! # A statement shows the shape of a condition and none of its values

Conditions of one shape differ in their patterns and in the operands that are not null. They are
rendered side by side: what is written so far is the same, and as many parameters are taken, so the
next placeholder has the same number in both. -/

namespace Allowlist

namespace Predicate

mutual

/-- Whether two conditions differ at most in patterns and in operands that are not null. -/
def sameShape : Predicate → Predicate → Bool
  | compare c column v, compare d column' w => c == d && column == column' && v.isNull == w.isNull
  | like column _, like column' _ => column == column'
  | isIn column vs, isIn column' ws =>
    column == column' && vs.map FieldValue.isNull == ws.map FieldValue.isNull
  | all ps, all qs => sameShapes ps qs
  | any ps, any qs => sameShapes ps qs
  | not p, not q => sameShape p q
  | _, _ => false

def sameShapes : List Predicate → List Predicate → Bool
  | [], [] => true
  | p :: ps, q :: qs => sameShape p q && sameShapes ps qs
  | _, _ => false

end

/-- Whether two conditions are both absent or both there and of one shape. -/
def sameShape? : Option Predicate → Option Predicate → Bool
  | none, none => true
  | some p, some q => sameShape p q
  | _, _ => false

end Predicate

namespace Sql.Statement
variable {s s' t t' : Statement} {x y : Except StoreError Statement} {next : Nat}

/-- Two parts with the same tokens and as many parameters. -/
structure Alike (s t : Statement) : Prop where
  tokens : s.tokens = t.tokens
  params : s.params.length = t.params.length

namespace Alike

theorem refl (s : Statement) : Alike s s := ⟨rfl, rfl⟩

theorem append (h : Alike s t) (h' : Alike s' t') : Alike (s ++ s') (t ++ t') :=
  ⟨by simp [h.tokens, h'.tokens], by simp [h.params, h'.params]⟩

theorem parenthesized (h : Alike s t) : Alike s.parenthesized t.parenthesized :=
  ((refl _).append h).append (refl _)

theorem operand {v w : FieldValue} (h : v.isNull = w.isNull) (next : Nat) :
    Alike (operand next v) (operand next w) := by
  unfold Statement.operand
  rw [h]
  split
  · exact refl _
  · exact ⟨rfl, rfl⟩

theorem furtherOperands {vs ws : List FieldValue}
    (h : vs.map FieldValue.isNull = ws.map FieldValue.isNull) (next : Nat) :
    Alike (furtherOperands next vs) (furtherOperands next ws) := by
  induction vs generalizing ws next with
  | nil => rw [List.map_eq_nil_iff.mp h.symm]; exact refl _
  | cons v vs ih =>
    obtain ⟨w, ws, rfl, hv, hvs⟩ := List.map_eq_cons_iff.mp h.symm
    have hfirst := Alike.operand hv.symm next
    unfold Statement.furtherOperands
    simp only [hfirst.params]
    exact ((refl _).append hfirst).append (ih hvs.symm _)

theorem operands {vs ws : List FieldValue}
    (h : vs.map FieldValue.isNull = ws.map FieldValue.isNull) (next : Nat) :
    Alike (operands next vs) (operands next ws) := by
  cases vs with
  | nil => rw [List.map_eq_nil_iff.mp h.symm]; exact refl _
  | cons v vs =>
    obtain ⟨w, ws, rfl, hv, hvs⟩ := List.map_eq_cons_iff.mp h.symm
    have hfirst := Alike.operand hv.symm next
    unfold Statement.operands
    simp only [hfirst.params]
    exact hfirst.append (furtherOperands hvs.symm _)

end Alike

/-- Both fail with the same error, or both give parts that are alike. -/
inductive Twins : Except StoreError Statement → Except StoreError Statement → Prop
  | error (e : StoreError) : Twins (.error e) (.error e)
  | ok {s t : Statement} (alike : Alike s t) : Twins (.ok s) (.ok t)

namespace Twins

theorem refl (x : Except StoreError Statement) : Twins x x := by
  cases x with
  | error e => exact .error e
  | ok s => exact .ok (.refl s)

theorem bind {f g : Statement → Except StoreError Statement} (h : Twins x y)
    (hfg : ∀ s t, Alike s t → Twins (f s) (g t)) : Twins (x >>= f) (y >>= g) := by
  cases h with
  | error e => exact .error e
  | ok alike => exact hfg _ _ alike

/-- Behind one name, parts that are alike stay so. -/
theorem ofName {f g : Statement → Statement} (name : String) (h : ∀ n, Alike (f n) (g n)) :
    Twins (ofName name >>= fun n => pure (f n)) (ofName name >>= fun n => pure (g n)) := by
  cases Statement.ofName name with
  | error e => exact .error e
  | ok n => exact .ok (h n)

end Twins

open Predicate (sameShape sameShapes sameShape?)

/-- Whether the condition is rendered like every other one of its shape. -/
def ShowsShape (p : Predicate) : Prop :=
  ∀ q, sameShape p q = true → ∀ next, Twins (condition next p) (condition next q)

theorem twins_further {joiner : Word} {ps qs : List Predicate} (ih : ∀ p ∈ ps, ShowsShape p)
    (h : sameShapes ps qs = true) (next : Nat) :
    Twins (further joiner next ps) (further joiner next qs) := by
  induction ps generalizing qs next with
  | nil =>
    cases qs with
    | nil => exact .refl _
    | cons q qs => cases h
  | cons p ps ih' =>
    cases qs with
    | nil => cases h
    | cons q qs =>
      obtain ⟨hp, hps⟩ := Bool.and_eq_true_iff.mp h
      unfold further
      refine (ih p List.mem_cons_self q hp next).bind fun first first' hfirst => ?_
      rw [hfirst.params]
      refine (ih' (fun r hr => ih r (List.mem_cons_of_mem p hr)) hps _).bind fun more more' hmore => ?_
      exact .ok (((Alike.refl _).append hfirst).append hmore)

theorem twins_group {k : Connective} {ps qs : List Predicate} (ih : ∀ p ∈ ps, ShowsShape p)
    (h : sameShapes ps qs = true) (next : Nat) :
    Twins (condition next (k.group ps)) (condition next (k.group qs)) := by
  cases ps with
  | nil =>
    cases qs with
    | nil => exact .refl _
    | cons q qs => cases h
  | cons p ps =>
    cases qs with
    | nil => cases h
    | cons q qs =>
      obtain ⟨hp, hps⟩ := Bool.and_eq_true_iff.mp h
      have hgroup : Twins
          (condition next p >>= fun first =>
            further k.word (next + first.params.length) ps >>= fun more =>
              pure (parenthesized (first ++ more)))
          (condition next q >>= fun first =>
            further k.word (next + first.params.length) qs >>= fun more =>
              pure (parenthesized (first ++ more))) := by
        refine (ih p List.mem_cons_self q hp next).bind fun first first' hfirst => ?_
        rw [hfirst.params]
        refine (twins_further (fun r hr => ih r (List.mem_cons_of_mem p hr)) hps _).bind
          fun more more' hmore => ?_
        exact .ok (hfirst.append hmore).parenthesized
      cases k <;> simpa only [Connective.group, Connective.word, condition] using hgroup

theorem showsShape (p : Predicate) : ShowsShape p := by
  induction p with
  | compare c column v =>
    intro q h next
    cases q with
    | compare d column' w =>
      simp only [sameShape, Bool.and_eq_true, beq_iff_eq] at h
      obtain ⟨⟨rfl, rfl⟩, hnull⟩ := h
      unfold condition
      exact .ofName column fun n => (Alike.refl _).append (.operand hnull next)
    | _ => cases h
  | like column pattern =>
    intro q h next
    cases q with
    | like column' pattern' =>
      obtain rfl : column = column' := beq_iff_eq.mp h
      unfold condition
      have hnull : (FieldValue.string pattern).isNull = (FieldValue.string pattern').isNull := rfl
      exact .ofName column fun n => (Alike.refl _).append (.operand hnull next)
    | _ => cases h
  | isIn column vs =>
    intro q h next
    cases q with
    | isIn column' ws =>
      simp only [sameShape, Bool.and_eq_true, beq_iff_eq] at h
      obtain ⟨rfl, hnulls⟩ := h
      cases vs with
      | nil => rw [List.map_eq_nil_iff.mp hnulls.symm]; exact .refl _
      | cons v vs =>
        obtain ⟨w, ws, rfl, -, -⟩ := List.map_eq_cons_iff.mp hnulls.symm
        unfold condition
        exact .ofName column fun n => (Alike.refl _).append (Alike.operands hnulls next).parenthesized
    | _ => cases h
  | all ps ih =>
    intro q h next
    cases q with
    | all qs => exact twins_group (k := .and) ih h next
    | _ => cases h
  | any ps ih =>
    intro q h next
    cases q with
    | any qs => exact twins_group (k := .or) ih h next
    | _ => cases h
  | not p ih =>
    intro q h next
    cases q with
    | not q =>
      unfold condition
      exact (ih q h next).bind fun s t hst => .ok ((Alike.refl _).append hst.parenthesized)
    | _ => cases h

theorem twins_restriction {f g : Option Predicate} (h : sameShape? f g = true) :
    Twins (restriction f) (restriction g) := by
  cases f with
  | none =>
    cases g with
    | none => exact .refl _
    | some q => cases h
  | some p =>
    cases g with
    | none => cases h
    | some q => exact (showsShape p q h 1).bind fun s t hst => .ok ((Alike.refl _).append hst)

/-- Both fail, or both give one text, with as many parameters. -/
def SameText (x y : Except StoreError Statement) : Prop :=
  (∃ e, x = .error e ∧ y = .error e) ∨
    ∃ s t, x = .ok s ∧ y = .ok t ∧ s.text = t.text ∧ s.params.length = t.params.length

theorem Twins.sameText (h : Twins x y) : SameText x y := by
  cases h with
  | error e => exact .inl ⟨e, rfl, rfl⟩
  | ok alike => exact .inr ⟨_, _, rfl, rfl, by rw [text, text, alike.tokens], alike.params⟩

/-- Queries that differ in values alone, not in the shape of their conditions, get the same texts
for selecting and for counting, with as many parameters, or fail alike. -/
theorem text_depends_on_shape (table : String) {q q' : SelectQuery} (ho : q.orderBy = q'.orderBy)
    (hl : q.limit = q'.limit) (hs : q.offset = q'.offset)
    (hf : sameShape? q.filter q'.filter = true) :
    SameText (select table q) (select table q') ∧
      SameText (count table q.filter) (count table q'.filter) := by
  have hfilter := twins_restriction hf
  constructor
  · refine Twins.sameText ?_
    unfold select
    rw [← ho, ← hl, ← hs]
    refine (Twins.refl (Statement.ofName table)).bind fun name name' hname => ?_
    refine hfilter.bind fun f g hfg => ?_
    refine (Twins.refl (ordering q.orderBy)).bind fun o o' ho => ?_
    exact .ok (((((Alike.refl _).append hname).append hfg).append ho).append (.refl _))
  · refine Twins.sameText ?_
    unfold count
    refine (Twins.refl (Statement.ofName table)).bind fun name name' hname => ?_
    exact hfilter.bind fun f g hfg => .ok (((Alike.refl _).append hname).append hfg)

def labelled (owner : FieldValue) (label pattern : String) : SelectQuery where
  filter := some (.any [.compare .eq "owner" owner, .isIn "shop.label" [.null, .string label],
    .all [.not (.like "name" pattern), .any [], .compare .gt "price" .null]])
  orderBy := ⟨"id", .desc⟩
  limit := 20
  offset := 40

theorem hostile_values_same_text :
    let plain := labelled (.integer 7) "new" "%lamp%"
    let hostile := labelled (.string "' OR 1=1 --") "\"; DROP TABLE items; $2" "$1\\'"
    sameShape? plain.filter hostile.filter = true ∧
      SameText (select "items" plain) (select "items" hostile) ∧
      SameText (count "items" plain.filter) (count "items" hostile.filter) :=
  ⟨by decide, text_depends_on_shape "items" rfl rfl rfl (by decide)⟩

end Sql.Statement

end Allowlist
