import Allowlist.Proofs.Sql.Scan
import Allowlist.Sql.Statement

/-! # The parts of a statement

A condition is put together from parts that carry their own parameters. The placeholders of a part
are numbered as if it stood behind `next - 1` parameters of others: `Numbers` says that they stay
within those of the part, and `Gives` that they stand for the right values in every statement that
has the part there. -/

namespace Allowlist.Sql

theorem bind_eq_ok {ε α β : Type} {x : Except ε α} {f : α → Except ε β} {b : β} :
    x >>= f = .ok b ↔ ∃ a, x = .ok a ∧ f a = .ok b := by
  cases x <;> simp [bind, Except.bind]

/-- The two connectives of groups. -/
inductive Connective
  | and
  | or

namespace Connective

def word : Connective → Word
  | and => .and
  | or => .or

def group : Connective → List Predicate → Predicate
  | and => .all
  | or => .any

/-- The condition that has been read from two. -/
def join : Connective → Clause → Clause → Clause
  | and => .and
  | or => .or

/-- The truth value of a group, given those of its conditions. -/
def truth : Connective → List Truth → Truth
  | and => .all
  | or => .any

end Connective

namespace Statement
variable {s t : Statement} {next : Nat}

@[simp] theorem tokens_append : (s ++ t).tokens = s.tokens ++ t.tokens := rfl

@[simp] theorem params_append : (s ++ t).params = s.params ++ t.params := rfl

@[simp] theorem tokens_ofTokens (ts : List Token) : (ofTokens ts).tokens = ts := rfl

@[simp] theorem params_ofTokens (ts : List Token) : (ofTokens ts).params = [] := rfl

@[simp] theorem tokens_ofWords (ws : List Word) : (ofWords ws).tokens = ws.map .word := rfl

@[simp] theorem params_ofWords (ws : List Word) : (ofWords ws).params = [] := rfl

@[simp] theorem tokens_parenthesized :
    s.parenthesized.tokens = .word .opening :: (s.tokens ++ [.word .closing]) := rfl

@[simp] theorem params_parenthesized : s.parenthesized.params = s.params := by
  simp [parenthesized]

/-- Whether each token of a statement can be read from its text. -/
def IsReadable (s : Statement) : Prop := ∀ t ∈ s.tokens, t.IsReadable

@[simp] theorem isReadable_append : (s ++ t).IsReadable ↔ s.IsReadable ∧ t.IsReadable :=
  List.forall_mem_append

@[simp] theorem isReadable_ofWords (ws : List Word) : (ofWords ws).IsReadable := by
  simp [IsReadable]

@[simp] theorem isReadable_parenthesized : s.parenthesized.IsReadable ↔ s.IsReadable := by
  simp [parenthesized]

/-! ## What is written -/

theorem ofName_eq_ok {name : String} :
    ofName name = .ok s ↔ isValidName name = true ∧ s = ofTokens [.name (nameParts name)] := by
  unfold ofName Token.ofName
  split
  · next h => simp [Except.map, h, eq_comm]
  · next h => simp [Except.map, h]

theorem ofName_bind_eq_ok {name : String} {f : Statement → Statement} :
    (ofName name >>= fun n => pure (f n)) = .ok s ↔
      isValidName name = true ∧ s = f (ofTokens [.name (nameParts name)]) := by
  simp only [bind_eq_ok, ofName_eq_ok, pure, Except.pure, Except.ok.injEq]
  constructor
  · rintro ⟨_, ⟨h, rfl⟩, rfl⟩; exact ⟨h, rfl⟩
  · rintro ⟨h, rfl⟩; exact ⟨_, ⟨h, rfl⟩, rfl⟩

theorem condition_compare {c : Comparison} {column : Column} {value : FieldValue} :
    condition next (.compare c column value) = .ok s ↔ isValidName column = true ∧
      s = ofTokens [.name (nameParts column)] ++ ofWords [comparisonWord c] ++ operand next value := by
  rw [condition]; exact ofName_bind_eq_ok

theorem condition_like {column : Column} {pattern : String} :
    condition next (.like column pattern) = .ok s ↔ isValidName column = true ∧
      s = ofTokens [.name (nameParts column)] ++ ofWords [.like] ++ operand next (.string pattern) := by
  rw [condition]; exact ofName_bind_eq_ok

theorem condition_isIn_cons {column : Column} {value : FieldValue} {values : List FieldValue} :
    condition next (.isIn column (value :: values)) = .ok s ↔ isValidName column = true ∧
      s = ofTokens [.name (nameParts column)] ++ ofWords [.isIn] ++
        parenthesized (operands next (value :: values)) := by
  rw [condition]; exact ofName_bind_eq_ok

theorem condition_group_cons {k : Connective} {p : Predicate} {ps : List Predicate} :
    condition next (k.group (p :: ps)) = .ok s ↔ ∃ first more, condition next p = .ok first ∧
      further k.word (next + first.params.length) ps = .ok more ∧
      s = parenthesized (first ++ more) := by
  cases k <;>
    simp [Connective.group, Connective.word, condition, bind_eq_ok, pure, Except.pure, eq_comm (a := s)]

theorem further_cons {joiner : Word} {p : Predicate} {ps : List Predicate} :
    further joiner next (p :: ps) = .ok s ↔ ∃ first more, condition next p = .ok first ∧
      further joiner (next + first.params.length) ps = .ok more ∧
      s = ofWords [joiner] ++ first ++ more := by
  simp [further, bind_eq_ok, pure, Except.pure,
    eq_comm (a := s)]

theorem condition_not {p : Predicate} :
    condition next (.not p) = .ok s ↔
      ∃ inner, condition next p = .ok inner ∧ s = ofWords [.not] ++ parenthesized inner := by
  simp [condition, bind_eq_ok, pure, Except.pure,
    eq_comm (a := s)]

/-! ## Placeholders -/

/-- Whether placeholders of these numbers are those of a part that is numbered from `next`. -/
def Numbers (s : Statement) (next : Nat) (ns : List Nat) : Prop :=
  ∀ n ∈ ns, next ≤ n ∧ n < next + s.params.length

/-- Whether this is what comes of the values of all placeholders, as long as those of a part that is
numbered from `next` stand where they belong. -/
def Gives {α : Type} (s : Statement) (next : Nat) (f : List FieldValue → α) (a : α) : Prop :=
  ∀ before after, before.length + 1 = next → f (before ++ s.params ++ after) = a

variable {ns ms : List Nat}

theorem Numbers.nil : s.Numbers next [] := fun _ h => by cases h

theorem Numbers.left (h : s.Numbers next ns) : (s ++ t).Numbers next ns := fun n hn =>
  ⟨(h n hn).1, by have := (h n hn).2; simp only [params_append, List.length_append]; omega⟩

theorem Numbers.right (h : t.Numbers (next + s.params.length) ns) : (s ++ t).Numbers next ns :=
  fun n hn => by
    have := h n hn
    simp only [params_append, List.length_append]; omega

theorem Numbers.append (h : s.Numbers next ns) (h' : s.Numbers next ms) :
    s.Numbers next (ns ++ ms) := fun n hn => (List.mem_append.mp hn).elim (h n) (h' n)

theorem Numbers.congr (ht : t.params = s.params) (h : s.Numbers next ns) : t.Numbers next ns := by
  unfold Numbers; rw [ht]; exact h

section Gives
variable {α β γ : Type} {f : List FieldValue → α} {g : List FieldValue → β} {a : α} {b : β}

theorem Gives.const (a : α) : s.Gives next (fun _ => a) a := fun _ _ _ => rfl

theorem Gives.left (h : s.Gives next f a) : (s ++ t).Gives next f a := fun before after hb => by
  rw [params_append, ← List.append_assoc, List.append_assoc _ t.params]; exact h _ _ hb

theorem Gives.right (h : t.Gives (next + s.params.length) f a) : (s ++ t).Gives next f a :=
  fun before after hb => by
    rw [params_append, ← List.append_assoc]
    exact h (before ++ s.params) after (by rw [List.length_append]; omega)

theorem Gives.map (h : s.Gives next f a) (k : α → γ) : s.Gives next (fun ps => k (f ps)) (k a) :=
  fun before after hb => congrArg k (h before after hb)

theorem Gives.map₂ (h : s.Gives next f a) (h' : s.Gives next g b) (k : α → β → γ) :
    s.Gives next (fun ps => k (f ps) (g ps)) (k a b) :=
  fun before after hb => congr (congrArg k (h before after hb)) (h' before after hb)

theorem Gives.congr (ht : t.params = s.params) (h : s.Gives next f a) : t.Gives next f a := by
  unfold Gives; rw [ht]; exact h

end Gives

end Statement

end Allowlist.Sql
