import Allowlist.Predicate.Basic

/-! # Induction on conditions

Conditions nest in lists, so the induction hypothesis of a group is about every member of it. -/

namespace Allowlist

@[elab_as_elim, induction_eliminator]
theorem Predicate.induct {motive : Predicate → Prop}
    (compare : ∀ c column value, motive (.compare c column value))
    (like : ∀ column pattern, motive (.like column pattern))
    (isIn : ∀ column values, motive (.isIn column values))
    (all : ∀ ps, (∀ p ∈ ps, motive p) → motive (.all ps))
    (any : ∀ ps, (∀ p ∈ ps, motive p) → motive (.any ps))
    (not : ∀ p, motive p → motive (.not p)) (p : Predicate) : motive p := by
  refine @Predicate.rec motive (fun ps => ∀ p ∈ ps, motive p) compare like isIn all any not ?_ ?_ p
  · intro p hp; cases hp
  · intro p ps hp hps q hq
    rcases List.mem_cons.mp hq with rfl | hq
    · exact hp
    · exact hps q hq

end Allowlist
