import Allowlist.Proofs.Predicate.Induction
import Allowlist.Proofs.Sql.Statement

/-! # A rendered condition means its predicate

The text behind `WHERE` is read back as a condition, by the rules of precedence alone, and on every
record that condition has the truth value of the predicate. The parts of a condition are followed
from the inside out, each with what is read from it, the numbers of its placeholders and its value:
`IsOperand`, `AreItems`, `IsCondition` and `AreFurther`. Only the outermost part becomes a text. -/

namespace Allowlist.Sql

open Text

namespace Statement
variable {s t : Statement} {next : Nat}

/-! ## Operands -/

/-- The part is one operand of this value. -/
structure IsOperand (s : Statement) (next : Nat) (item : Term) (value : Record → FieldValue) :
    Prop where
  token : ∃ t, s.tokens = [t] ∧ Term.ofToken? t = some item
  readable : s.IsReadable
  numbers : s.Numbers next item.placeholders
  gives : ∀ record, s.Gives next (item.value · record) (value record)

theorem isReadable_ofTokens_name {column : Column} (h : isValidName column = true) :
    (ofTokens [.name (nameParts column)]).IsReadable := by
  simp [IsReadable, isReadable_name h]

theorem isOperand_name {column : Column} (h : isValidName column = true) :
    (ofTokens [.name (nameParts column)]).IsOperand next (.column column)
      fun record => Record.column record column :=
  ⟨⟨_, rfl, ofToken?_name column⟩, isReadable_ofTokens_name h, .nil, fun _ => .const _⟩

theorem isOperand_number (n : Nat) :
    (ofTokens [.number n]).IsOperand next (.number n) fun _ => .integer (Int64.ofNat n) :=
  ⟨⟨_, rfl, rfl⟩, by simp [IsReadable], .nil, fun _ => .const _⟩

theorem exists_isOperand (next : Nat) (value : FieldValue) :
    ∃ item, (operand next value).IsOperand next item fun _ => value := by
  unfold operand
  split
  · next h =>
    have hv := FieldValue.eq_null_of_isNull h
    exact ⟨.null, ⟨.word .null, rfl, rfl⟩, by simp, .nil, fun _ => hv ▸ .const _⟩
  · refine ⟨.placeholder next, ⟨.placeholder next, rfl, rfl⟩, by simp [IsReadable], fun n hn => ?_, ?_⟩
    · rw [List.mem_singleton.mp hn]; exact ⟨Nat.le_refl _, Nat.lt_succ_self _⟩
    · intro record before after hb
      simp [Term.value, ← hb]

/-- The part is the further items of a list, each behind its comma. -/
structure AreItems (s : Statement) (next : Nat) (items : List Term) (values : List FieldValue) :
    Prop where
  readable : s.IsReadable
  read : ∀ t first rest, Term.ofToken? t = some first →
    items? (t :: (s.tokens ++ .word .closing :: rest)) = some (first :: items, rest)
  numbers : s.Numbers next (items.flatMap Term.placeholders)
  gives : ∀ record, s.Gives next (fun params => items.map (Term.value params record)) values

theorem exists_areItems (next : Nat) (values : List FieldValue) :
    ∃ items, (furtherOperands next values).AreItems next items values := by
  induction values generalizing next with
  | nil =>
    refine ⟨[], isReadable_ofWords [], fun t first rest ht => ?_, .nil, fun _ => .const _⟩
    simp [furtherOperands, items?, ht]
  | cons value values ih =>
    obtain ⟨item, ⟨u, hu, hread⟩, hreadable, hn, hg⟩ := exists_isOperand next value
    obtain ⟨items, hi⟩ := ih (next + (operand next value).params.length)
    refine ⟨item :: items, ?_, fun t first rest ht => ?_, ?_, fun record => ?_⟩
    · simp [furtherOperands, hreadable, hi.readable]
    · simp [furtherOperands, hu, items?, ht, hi.read u item rest hread]
    · exact .append (.left (.right hn)) (.right (s := ofWords [.comma] ++ operand next value) hi.numbers)
    · exact .map₂ (.left (.right (hg record)))
        (.right (s := ofWords [.comma] ++ operand next value) (hi.gives record)) List.cons

/-! ## Conditions without connectives -/

/-- The part is read as the condition, if parentheses may go as deep as it is long. -/
structure IsCondition (s : Statement) (next : Nat) (c : Clause) (value : Record → Truth) : Prop where
  readable : s.IsReadable
  read : ∀ depth, s.tokens.length ≤ depth → ∀ rest,
    negation? (operand? (clause? depth)) (s.tokens ++ rest) = some (c, rest)
  numbers : s.Numbers next c.placeholders
  gives : ∀ record, s.Gives next (c.value · record) (value record)

theorem negation?_ofToken? {inner : Reader Clause} {t : Token} {item : Term}
    (h : Term.ofToken? t = some item) (rest : List Token) :
    negation? (operand? inner) (t :: rest) = atom? (t :: rest) := by
  cases t with
  | word w => cases w <;> first | rfl | cases h
  | _ => rfl

theorem atom?_compare {t u : Token} {left right : Term} (ht : Term.ofToken? t = some left)
    (hu : Term.ofToken? u = some right) (c : Comparison) (rest : List Token) :
    atom? (t :: .word (comparisonWord c) :: u :: rest) = some (.compare c left right, rest) := by
  cases c <;> simp [atom?, comparisonWord, comparison?, ht, hu]

theorem atom?_like {t u : Token} {left right : Term} (ht : Term.ofToken? t = some left)
    (hu : Term.ofToken? u = some right) (rest : List Token) :
    atom? (t :: .word .like :: u :: rest) = some (.like left right, rest) := by
  simp [atom?, ht, hu]

section Binary
variable {left right : Term} {v w : Record → FieldValue}

/-- Two operands with a word between them, given what they are read as and its value. -/
theorem isCondition_binary (hs : s.IsOperand next left v)
    (ht : t.IsOperand (next + s.params.length) right w) {joiner : Word} {c : Clause}
    {combine : FieldValue → FieldValue → Truth}
    (hread : ∀ t u rest, Term.ofToken? t = some left → Term.ofToken? u = some right →
      atom? (t :: .word joiner :: u :: rest) = some (c, rest))
    (hplaceholders : c.placeholders = left.placeholders ++ right.placeholders)
    (hvalue : ∀ params record,
      c.value params record = combine (left.value params record) (right.value params record)) :
    (s ++ ofWords [joiner] ++ t).IsCondition next c fun record => combine (v record) (w record) := by
  obtain ⟨⟨a, ha, haread⟩, hareadable, hns, hgs⟩ := hs
  obtain ⟨⟨b, hb, hbread⟩, hbreadable, hnt, hgt⟩ := ht
  have hparams : (s ++ ofWords [joiner] ++ t).params = (s ++ t).params := by simp
  have htokens : (s ++ ofWords [joiner] ++ t).tokens = [a, .word joiner, b] := by simp [ha, hb]
  refine ⟨by simp [hareadable, hbreadable], fun depth _ rest => ?_, ?_, fun record => ?_⟩
  · rw [htokens]
    exact (negation?_ofToken? haread _).trans (hread a b rest haread hbread)
  · rw [hplaceholders]
    exact .congr hparams (.append (.left hns) (.right hnt))
  · simp only [hvalue]
    exact .congr hparams (.map₂ (.left (hgs record)) (.right (hgt record)) combine)

theorem isCondition_compare (c : Comparison) (hs : s.IsOperand next left v)
    (ht : t.IsOperand (next + s.params.length) right w) :
    (s ++ ofWords [comparisonWord c] ++ t).IsCondition next (.compare c left right)
      fun record => (v record).compareTruth c (w record) :=
  isCondition_binary hs ht (fun _ _ rest ht hu => atom?_compare ht hu c rest) rfl fun _ _ => rfl

theorem isCondition_like (hs : s.IsOperand next left v)
    (ht : t.IsOperand (next + s.params.length) right w) :
    (s ++ ofWords [.like] ++ t).IsCondition next (.like left right)
      fun record => (v record).likeTruth (w record) :=
  isCondition_binary hs ht (fun _ _ rest ht hu => atom?_like ht hu rest) rfl fun _ _ => rfl

end Binary

theorem isCondition_tautology : tautology.IsCondition next
    (.compare .eq (.number 1) (.number 1)) fun _ => .yes :=
  isCondition_compare .eq (isOperand_number 1) (isOperand_number 1)

theorem isCondition_contradiction : contradiction.IsCondition next
    (.compare .eq (.number 1) (.number 0)) fun _ => .no :=
  isCondition_compare .eq (isOperand_number 1) (isOperand_number 0)

theorem exists_isCondition_isIn {column : Column} (h : isValidName column = true)
    (value : FieldValue) (values : List FieldValue) :
    ∃ c, (ofTokens [.name (nameParts column)] ++ ofWords [.isIn] ++
      parenthesized (operands next (value :: values))).IsCondition next c
        fun record => (Record.column record column).inTruth (value :: values) := by
  obtain ⟨item, ⟨u, hu, hread⟩, hreadable, hn, hg⟩ := exists_isOperand next value
  obtain ⟨items, hi⟩ := exists_areItems (next + (operand next value).params.length) values
  refine ⟨.isIn (.column column) (item :: items), ?_, fun depth _ rest => ?_, ?_, fun record => ?_⟩
  · simp [operands, isReadable_ofTokens_name h, hreadable, hi.readable]
  · simp [operands, hu, negation?, operand?, atom?, ofToken?_name, hi.read u item rest hread]
  · exact .congr (by simp [operands])
      (.append .nil (.append (.left hn) (.right (s := operand next value) hi.numbers)))
  · exact .congr (by simp [operands]) (.map (.map₂ (.left (hg record))
      (.right (s := operand next value) (hi.gives record)) List.cons)
      (Record.column record column).inTruth)

end Statement

/-! ## Groups -/

section Joined
variable {joiner : Word} {join : Clause → Clause → Clause} {item : Reader Clause} {left : Clause}

theorem joined?_stop {ts : List Token} (h : ∀ t ∈ ts.head?, t ≠ .word joiner) :
    joined? joiner join item left ts = some (left, ts) := by
  cases ts with
  | nil => rw [joined?]
  | cons t rest => rw [joined?, if_neg (h t rfl)]

theorem joined?_step {ts after : List Token} {right : Clause} (h : item ts = some (right, after))
    (hle : after.length ≤ ts.length) : joined? joiner join item left (.word joiner :: ts) =
      joined? joiner join item (join left right) after := by
  rw [joined?, if_pos rfl, h]; exact if_pos hle

theorem chain?_of_eq {ts rest : List Token} (h : item ts = some (left, rest)) :
    chain? joiner join item ts = joined? joiner join item left rest := by
  simp [chain?, h]

end Joined

theorem clause?_of_negation? {depth : Nat} {ts rest : List Token} {c : Clause}
    (h : negation? (operand? (clause? depth)) ts = some (c, rest))
    (hrest : ∀ t ∈ rest.head?, t ≠ .word .and ∧ t ≠ .word .or) :
    clause? (depth + 1) ts = some (c, rest) := by
  have hchain : chain? .and .and (negation? (operand? (clause? depth))) ts = some (c, rest) :=
    (chain?_of_eq h).trans (joined?_stop fun t ht => (hrest t ht).1)
  rw [clause?]
  exact (chain?_of_eq hchain).trans (joined?_stop fun t ht => (hrest t ht).2)

namespace Connective
variable {k : Connective}

/-- The reader of the conditions that a connective joins. -/
def item? (k : Connective) (depth : Nat) : Reader Clause :=
  match k with
  | and => negation? (operand? (clause? depth))
  | or => chain? .and .and (negation? (operand? (clause? depth)))

/-- What `AND` joins is joined by `OR` as well, unless there is an `AND` behind it. -/
theorem item?_eq_some {depth : Nat} {ts rest : List Token} {c : Clause}
    (h : negation? (operand? (clause? depth)) ts = some (c, rest))
    (hrest : ∀ t ∈ rest.head?, t = .word k.word ∨ t = .word .closing) :
    k.item? depth ts = some (c, rest) := by
  cases k with
  | and => exact h
  | or =>
    refine (chain?_of_eq h).trans (joined?_stop fun t ht => ?_)
    rcases hrest t ht with rfl | rfl <;> simp [word]

theorem clause?_succ {depth : Nat} {ts more rest : List Token} {first c : Clause}
    (hfirst : negation? (operand? (clause? depth)) ts = some (first, more))
    (hmore : ∀ t ∈ more.head?, t = .word k.word ∨ t = .word .closing)
    (h : joined? k.word k.join (k.item? depth) first more = some (c, .word .closing :: rest)) :
    clause? (depth + 1) ts = some (c, .word .closing :: rest) := by
  rw [clause?]
  cases k with
  | and =>
    have hchain : item? .or depth ts = some (c, .word .closing :: rest) :=
      (chain?_of_eq hfirst).trans h
    exact (chain?_of_eq hchain).trans (joined?_stop fun t ht => by cases ht; simp)
  | or => exact (chain?_of_eq (item?_eq_some (k := .or) hfirst hmore)).trans h

theorem placeholders_join (a b : Clause) :
    (k.join a b).placeholders = a.placeholders ++ b.placeholders := by cases k <;> rfl

theorem placeholders_foldl_join (c : Clause) (cs : List Clause) :
    (cs.foldl k.join c).placeholders = c.placeholders ++ cs.flatMap Clause.placeholders := by
  induction cs generalizing c with
  | nil => simp
  | cons d cs ih => rw [List.foldl_cons, ih, placeholders_join, List.append_assoc]; rfl

/-- It makes no difference whether a group is joined from the left or from the right. -/
theorem value_foldl_join (params : List FieldValue) (record : Record) (c : Clause)
    (cs : List Clause) : (cs.foldl k.join c).value params record =
      k.truth (c.value params record :: cs.map (Clause.value params record)) := by
  induction cs generalizing c with
  | nil => cases k <;> simp [truth, Truth.all, Truth.any]
  | cons d cs ih =>
    rw [List.foldl_cons, ih]
    cases k
    · exact Truth.and_assoc
    · exact Truth.or_assoc

theorem truth_group (k : Connective) (record : Record) (ps : List Predicate) :
    (k.group ps).truth record = k.truth (ps.map (Predicate.truth record)) := by
  cases k <;> simp [group, truth, Predicate.truth, Predicate.truths_eq]

end Connective

namespace Statement
variable {s t : Statement} {next : Nat} {k : Connective}

/-- The part is the further conditions of a group, each behind the word that joins it. -/
structure AreFurther (s : Statement) (k : Connective) (next : Nat) (cs : List Clause)
    (ps : List Predicate) : Prop where
  readable : s.IsReadable
  head : ∀ t ∈ s.tokens.head?, t = .word k.word
  read : ∀ depth, s.tokens.length ≤ depth → ∀ left rest,
    joined? k.word k.join (k.item? depth) left (s.tokens ++ .word .closing :: rest) =
      some (cs.foldl k.join left, .word .closing :: rest)
  numbers : s.Numbers next (cs.flatMap Clause.placeholders)
  gives : ∀ record, s.Gives next (fun params => cs.map (Clause.value params record))
    (ps.map (Predicate.truth record))

theorem AreFurther.head_closing {cs : List Clause} {ps : List Predicate}
    (h : s.AreFurther k next cs ps) (rest : List Token) :
    ∀ t ∈ (s.tokens ++ .word .closing :: rest).head?, t = .word k.word ∨ t = .word .closing := by
  intro t ht
  cases hs : s.tokens with
  | nil => rw [hs] at ht; exact .inr (Option.some.inj ht).symm
  | cons u us => rw [hs] at ht; exact .inl (h.head t (by rw [hs]; exact ht))

/-- Whether every statement of the predicate is a condition of its truth value. -/
def Rendered (p : Predicate) : Prop := ∀ next s, condition next p = .ok s →
  ∃ c, s.IsCondition next c fun record => p.truth record

theorem exists_areFurther {ps : List Predicate} (ih : ∀ p ∈ ps, Rendered p)
    (h : further k.word next ps = .ok s) : ∃ cs, s.AreFurther k next cs ps := by
  induction ps generalizing next s with
  | nil =>
    obtain rfl : ofTokens [] = s := Except.ok.inj h
    refine ⟨[], isReadable_ofWords [], fun t ht => ?_, fun depth _ left rest => ?_, .nil,
      fun _ => .const _⟩
    · cases ht
    · refine joined?_stop fun t ht => ?_
      cases ht
      cases k <;> simp [Connective.word]
  | cons p ps ih' =>
    obtain ⟨first, more, hfirst, hmore, rfl⟩ := further_cons.mp h
    obtain ⟨c, hc⟩ := ih p List.mem_cons_self next first hfirst
    obtain ⟨cs, hcs⟩ := ih' (fun q hq => ih q (List.mem_cons_of_mem p hq)) hmore
    refine ⟨c :: cs, ?_, fun t ht => ?_, fun depth hdepth left rest => ?_, ?_, fun record => ?_⟩
    · simp [hc.readable, hcs.readable]
    · exact (Option.some.inj ht).symm
    · simp only [tokens_append, tokens_ofWords, List.length_append, List.map_cons, List.map_nil,
        List.length_singleton] at hdepth
      have hitem := Connective.item?_eq_some (k := k)
        (hc.read depth (by omega) (more.tokens ++ .word .closing :: rest)) (hcs.head_closing rest)
      rw [tokens_append, tokens_append, tokens_ofWords, List.map_singleton, List.append_assoc,
        List.append_assoc, List.singleton_append, joined?_step hitem
        (by simp only [List.length_append]; omega)]
      exact hcs.read depth (by omega) (k.join left c) rest
    · exact .append (.left (.right hc.numbers)) (.right (s := ofWords [k.word] ++ first) hcs.numbers)
    · exact .map₂ (.left (.right (hc.gives record)))
        (.right (s := ofWords [k.word] ++ first) (hcs.gives record)) List.cons

theorem rendered_group {ps : List Predicate} (hne : ps ≠ []) (ih : ∀ p ∈ ps, Rendered p) :
    Rendered (k.group ps) := by
  intro next s h
  obtain ⟨p, ps, rfl⟩ := List.exists_cons_of_ne_nil hne
  obtain ⟨first, more, hfirst, hmore, rfl⟩ := condition_group_cons.mp h
  obtain ⟨c, hc⟩ := ih p List.mem_cons_self next first hfirst
  obtain ⟨cs, hcs⟩ := exists_areFurther (fun q hq => ih q (List.mem_cons_of_mem p hq)) hmore
  refine ⟨cs.foldl k.join c, ?_, fun depth hdepth rest => ?_, ?_, fun record => ?_⟩
  · simp [hc.readable, hcs.readable]
  · simp only [tokens_parenthesized, tokens_append, List.length_cons, List.length_append] at hdepth
    -- the parentheses take one level of the depth, and two of the tokens
    obtain ⟨depth, rfl⟩ := Nat.exists_eq_succ_of_ne_zero (show depth ≠ 0 by omega)
    have hread := Connective.clause?_succ
      (hc.read depth (by omega) (more.tokens ++ .word .closing :: rest)) (hcs.head_closing rest)
      (hcs.read depth (by omega) c rest)
    simp [negation?, operand?, hread]
  · rw [Connective.placeholders_foldl_join]
    exact .congr params_parenthesized (.append (.left hc.numbers) (.right hcs.numbers))
  · simp only [Connective.value_foldl_join, Connective.truth_group]
    exact .congr params_parenthesized
      (.map (.map₂ (.left (hc.gives record)) (.right (hcs.gives record)) List.cons) k.truth)

theorem rendered_not {p : Predicate} (ih : Rendered p) : Rendered (.not p) := by
  intro next s h
  obtain ⟨inner, hinner, rfl⟩ := condition_not.mp h
  obtain ⟨c, hc⟩ := ih next inner hinner
  have hparams : (ofWords [.not] ++ inner.parenthesized).params = inner.params := by simp
  refine ⟨.not c, by simp [hc.readable], fun depth hdepth rest => ?_, .congr hparams hc.numbers,
    fun record => .congr hparams (.map (hc.gives record) Truth.not)⟩
  simp only [tokens_append, tokens_ofWords, tokens_parenthesized, List.length_append,
    List.length_cons] at hdepth
  obtain ⟨depth, rfl⟩ := Nat.exists_eq_succ_of_ne_zero (show depth ≠ 0 by omega)
  have hread := clause?_of_negation? (hc.read depth (by omega) (.word .closing :: rest))
    (fun t ht => by cases ht; simp)
  simp [negation?, operand?, hread]

theorem rendered (p : Predicate) : Rendered p := by
  induction p with
  | compare c column value =>
    intro next s h
    obtain ⟨hname, rfl⟩ := condition_compare.mp h
    obtain ⟨item, hitem⟩ := exists_isOperand next value
    exact ⟨_, isCondition_compare c (isOperand_name hname) hitem⟩
  | like column pattern =>
    intro next s h
    obtain ⟨hname, rfl⟩ := condition_like.mp h
    obtain ⟨item, hitem⟩ := exists_isOperand next (.string pattern)
    exact ⟨_, isCondition_like (isOperand_name hname) hitem⟩
  | isIn column values =>
    intro next s h
    cases values with
    | nil => exact Except.ok.inj h ▸ ⟨_, isCondition_contradiction⟩
    | cons value values =>
      obtain ⟨hname, rfl⟩ := condition_isIn_cons.mp h
      exact exists_isCondition_isIn hname value values
  | all ps ih =>
    rcases Decidable.em (ps = []) with rfl | hne
    · exact fun next s h => Except.ok.inj h ▸ ⟨_, isCondition_tautology⟩
    · exact rendered_group (k := .and) hne ih
  | any ps ih =>
    rcases Decidable.em (ps = []) with rfl | hne
    · exact fun next s h => Except.ok.inj h ▸ ⟨_, isCondition_contradiction⟩
    · exact rendered_group (k := .or) hne ih
  | not p ih => exact rendered_not ih

/-! ## Whole statements -/

/-- Whether the condition in the text of a statement means the predicate: it can be read, its
placeholders have parameters, and it has the truth value of the predicate on every record. -/
def Means (s : Statement) (p : Predicate) : Prop :=
  ∃ c, filter? s.text = some c ∧ (∀ n ∈ c.placeholders, 1 ≤ n ∧ n ≤ s.params.length) ∧
    ∀ record, c.value s.params record = p.truth record

theorem restriction_eq_ok {p : Predicate} :
    restriction (some p) = .ok s ↔ ∃ c, condition 1 p = .ok c ∧ s = ofWords [.where] ++ c := by
  simp [restriction, bind_eq_ok, pure, Except.pure, eq_comm (a := s)]

theorem count_eq_ok {table : String} {filter : Option Predicate} :
    count table filter = .ok s ↔ isValidName table = true ∧ ∃ r, restriction filter = .ok r ∧
      s = ofWords [.select, .countAll, .from] ++ ofTokens [.name (nameParts table)] ++ r := by
  simp only [count, bind_eq_ok, ofName_eq_ok, pure, Except.pure, Except.ok.injEq]
  constructor
  · rintro ⟨_, ⟨h, rfl⟩, r, hr, rfl⟩; exact ⟨h, r, hr, rfl⟩
  · rintro ⟨h, r, hr, rfl⟩; exact ⟨_, ⟨h, rfl⟩, r, hr, rfl⟩

theorem ordering_eq_ok {o : OrderBy} :
    ordering o = .ok s ↔ isValidName o.column = true ∧ s = ofWords [.order, .by] ++
      ofTokens [.name (nameParts o.column)] ++ ofWords [directionWord o.direction] := by
  rw [ordering]; exact ofName_bind_eq_ok

theorem select_eq_ok {table : String} {q : SelectQuery} :
    select table q = .ok s ↔ isValidName table = true ∧ ∃ r, restriction q.filter = .ok r ∧
      ∃ o, ordering q.orderBy = .ok o ∧
      s = ofWords [.select, .all, .from] ++ ofTokens [.name (nameParts table)] ++ r ++ o ++
        window q.limit q.offset := by
  simp only [select, bind_eq_ok, ofName_eq_ok, pure, Except.pure, Except.ok.injEq]
  constructor
  · rintro ⟨_, ⟨h, rfl⟩, r, hr, o, ho, rfl⟩; exact ⟨h, r, hr, o, ho, rfl⟩
  · rintro ⟨h, r, hr, o, ho, rfl⟩; exact ⟨_, ⟨h, rfl⟩, r, hr, o, ho, rfl⟩

/-- A condition is found behind the only `WHERE` of a text, and goes to its end or its order. -/
theorem filter?_layout {c : Clause} {v : Record → Truth} (hc : s.IsCondition next c v)
    {before after : List Token} (hbefore : ∀ t ∈ before, t.IsReadable ∧ t ≠ .word .where)
    (hafter : ∀ t ∈ after, t.IsReadable) (horder : ∀ t ∈ after.head?, t = .word .order) :
    filter? (String.ofList (Token.layout (before ++ .word .where :: (s.tokens ++ after)))) = some c := by
  have hreadable : ∀ t ∈ before ++ .word .where :: (s.tokens ++ after), t.IsReadable := by
    intro t ht
    rcases List.mem_append.mp ht with ht | ht
    · exact (hbefore t ht).1
    rcases List.mem_cons.mp ht with rfl | ht
    · trivial
    · exact (List.mem_append.mp ht).elim (hc.readable t) (hafter t)
  have hdrop : (before ++ .word .where :: (s.tokens ++ after)).dropWhile (· ≠ .word .where) =
      .word .where :: (s.tokens ++ after) :=
    dropWhile_append_of_all (fun t ht => decide_eq_true (hbefore t ht).2) (by simp)
  have hread : clause? ((s.tokens ++ after).length + 1) (s.tokens ++ after) = some (c, after) :=
    clause?_of_negation? (hc.read _ (by simp) after) fun t ht => by simp [horder t ht]
  rw [filter?, String.toList_ofList, scan_layout hreadable]
  simp only [Option.bind_eq_bind, Option.bind_some, hdrop, hread]
  cases after with
  | nil => rfl
  | cons t after => rw [horder t rfl]

theorem means_of_isCondition {p : Predicate} {c : Clause}
    (hc : s.IsCondition 1 c fun record => p.truth record) (before after : List Token)
    (hbefore : ∀ t ∈ before, t.IsReadable ∧ t ≠ .word .where)
    (hafter : ∀ t ∈ after, t.IsReadable) (horder : ∀ t ∈ after.head?, t = .word .order)
    (htokens : t.tokens = before ++ .word .where :: (s.tokens ++ after))
    (hparams : t.params = s.params) : t.Means p := by
  refine ⟨c, ?_, fun n hn => ?_, fun record => ?_⟩
  · rw [text, htokens]; exact filter?_layout hc hbefore hafter horder
  · have := hc.numbers n hn
    rw [hparams]; omega
  · simpa [hparams] using hc.gives record [] [] rfl

theorem readable_select {table : String} (h : isValidName table = true) (w : Word) (hw : w ≠ .where) :
    ∀ t ∈ [Token.word .select, .word w, .word .from, .name (nameParts table)],
      t.IsReadable ∧ t ≠ .word .where := by
  simp [hw, isReadable_name h]

/-- The condition of a count and that of a selection mean the predicate that they are made of. -/
theorem rendered_filter_means (table : String) (p : Predicate) :
    (∀ s, count table (some p) = .ok s → s.Means p) ∧
      ∀ q s, q.filter = some p → select table q = .ok s → s.Means p := by
  constructor
  · intro s h
    obtain ⟨htable, _, hr, rfl⟩ := count_eq_ok.mp h
    obtain ⟨condition, hcondition, rfl⟩ := restriction_eq_ok.mp hr
    obtain ⟨c, hc⟩ := rendered p 1 condition hcondition
    exact means_of_isCondition hc _ [] (readable_select htable .countAll (by decide))
      (fun t ht => by cases ht) (fun t ht => by cases ht) (by simp) (by simp)
  · intro q s hq h
    obtain ⟨htable, _, hr, o, ho, rfl⟩ := select_eq_ok.mp h
    obtain ⟨condition, hcondition, rfl⟩ := restriction_eq_ok.mp (hq ▸ hr)
    obtain ⟨c, hc⟩ := rendered p 1 condition hcondition
    obtain ⟨hcolumn, rfl⟩ := ordering_eq_ok.mp ho
    exact means_of_isCondition hc _
      [.word .order, .word .by, .name (nameParts q.orderBy.column),
        .word (directionWord q.orderBy.direction), .word .limit, .number q.limit.toNat,
        .word .offset, .number q.offset.toNat]
      (readable_select htable .all (by decide)) (by simp [isReadable_name hcolumn])
      (fun t ht => (Option.some.inj ht).symm)
      (by simp [window]) (by simp [window])

/-- A filter that nests all connectives, with null operands and empty groups. -/
def nestedFilter : Predicate :=
  .any [.all [.compare .gte "price" (.integer 5),
      .not (.any [.compare .eq "owner" .null, .isIn "shop.kind" [.null, .string "new"]])],
    .like "name" "%lamp%", .isIn "kind" [], .all []]

theorem nestedFilter_means : ∃ s, count "items" (some nestedFilter) = .ok s ∧
    s.text = "SELECT COUNT(*) FROM \"items\" WHERE ((\"price\" >= $1 AND " ++
      "NOT ((\"owner\" = NULL OR \"shop\".\"kind\" IN (NULL, $2)))) OR " ++
      "\"name\" LIKE $3 OR 1 = 0 OR 1 = 1)" ∧ s.Means nestedFilter :=
  ⟨_, rfl, by decide +kernel, (rendered_filter_means "items" nestedFilter).1 _ rfl⟩

end Statement

end Allowlist.Sql
