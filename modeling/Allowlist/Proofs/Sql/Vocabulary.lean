import Allowlist.Proofs.Sql.Meaning

/-! # The vocabulary of statements

A statement is made of fixed words, names, placeholders and the numbers 0 and 1; only a page adds
its size and start. The names are those of the table and of the columns that the query names, and
they are all that can go wrong: with valid names there is a statement, and its text reads as these
tokens alone. -/

namespace Allowlist

open Sql

namespace Predicate

mutual

/-- The columns that a condition names; a list without items is written without its column. -/
def columns : Predicate → List Column
  | compare _ column _ => [column]
  | like column _ => [column]
  | isIn _ [] => []
  | isIn column (_ :: _) => [column]
  | all conditions => columnsOf conditions
  | any conditions => columnsOf conditions
  | not condition => columns condition

/-- The columns that the conditions of a list name. -/
def columnsOf : List Predicate → List Column
  | [] => []
  | p :: rest => columns p ++ columnsOf rest

end

theorem mem_columnsOf {column : Column} {ps : List Predicate} :
    column ∈ columnsOf ps ↔ ∃ p ∈ ps, column ∈ p.columns := by
  induction ps with
  | nil => simp [columnsOf]
  | cons p rest ih => simp [columnsOf, ih]

theorem mem_columns_and? {column : Column} {ps : List Predicate} {p : Predicate}
    (h : and? ps = some p) (hc : column ∈ p.columns) : ∃ q ∈ ps, column ∈ q.columns := by
  match ps, h with
  | [_], rfl => exact ⟨p, List.mem_singleton_self p, hc⟩
  | q :: r :: rest, rfl => exact mem_columnsOf.mp (by simpa only [columns] using hc)

theorem mem_columns_both? {column : Column} {p? q? : Option Predicate} {r : Predicate}
    (h : both? p? q? = some r) (hc : column ∈ r.columns) :
    (∃ p, p? = some p ∧ column ∈ p.columns) ∨ ∃ q, q? = some q ∧ column ∈ q.columns := by
  match p?, q?, h with
  | some p, none, rfl => exact .inl ⟨_, rfl, hc⟩
  | none, some q, rfl => exact .inr ⟨_, rfl, hc⟩
  | some p, some q, rfl =>
    rw [columns] at hc
    obtain ⟨t, ht, hct⟩ := mem_columnsOf.mp hc
    rcases List.mem_cons.mp ht with rfl | ht
    · exact .inl ⟨_, rfl, hct⟩
    · rw [List.mem_singleton.mp ht] at hct; exact .inr ⟨_, rfl, hct⟩

end Predicate

/-! ## Tokens -/

namespace Sql

/-- Whether the token is a fixed word, one of the names, a placeholder, or the number 0 or 1. -/
def Token.IsFrom (names : String → Prop) : Token → Prop
  | word _ => True
  | name parts => ∃ name, names name ∧ parts = nameParts name
  | placeholder _ => True
  | number n => n = 0 ∨ n = 1

theorem Token.IsFrom.mono {names names' : String → Prop} {t : Token} (h : t.IsFrom names)
    (hn : ∀ name, names name → names' name) : t.IsFrom names' := by
  cases t with
  | name parts => obtain ⟨name, hname, rfl⟩ := h; exact ⟨name, hn name hname, rfl⟩
  | _ => exact h

theorem Token.IsFrom.isReadable {names : String → Prop} {t : Token} (h : t.IsFrom names)
    (hn : ∀ name, names name → isValidName name = true) : t.IsReadable := by
  cases t with
  | name parts => obtain ⟨name, hname, rfl⟩ := h; exact isReadable_name (hn name hname)
  | _ => trivial

namespace Statement
variable {s t : Statement} {names names' : String → Prop}

/-- Whether every token of the part is of the vocabulary with these names. -/
def IsFrom (names : String → Prop) (s : Statement) : Prop := ∀ t ∈ s.tokens, t.IsFrom names

namespace IsFrom

theorem mono (h : s.IsFrom names) (hn : ∀ name, names name → names' name) : s.IsFrom names' :=
  fun t ht => (h t ht).mono hn

theorem append (h : s.IsFrom names) (h' : t.IsFrom names) : (s ++ t).IsFrom names :=
  fun u hu => (List.mem_append.mp hu).elim (h u) (h' u)

theorem ofWords (ws : List Word) : (ofWords ws).IsFrom names := by
  intro t ht
  obtain ⟨w, -, rfl⟩ := List.mem_map.mp ht
  trivial

theorem name {name : String} (h : names name) : (ofTokens [.name (nameParts name)]).IsFrom names := by
  intro t ht
  rw [List.mem_singleton.mp ht]
  exact ⟨name, h, rfl⟩

theorem parenthesized (h : s.IsFrom names) : s.parenthesized.IsFrom names :=
  ((ofWords _).append h).append (ofWords _)

theorem operand (next : Nat) (value : FieldValue) : (operand next value).IsFrom names := by
  unfold Statement.operand
  split
  · exact ofWords _
  · intro t ht
    rw [List.mem_singleton.mp ht]
    trivial

theorem furtherOperands (next : Nat) (values : List FieldValue) :
    (furtherOperands next values).IsFrom names := by
  induction values generalizing next with
  | nil => exact ofWords []
  | cons value rest ih => exact ((ofWords _).append (operand next value)).append (ih _)

theorem operands (next : Nat) (values : List FieldValue) : (operands next values).IsFrom names := by
  cases values with
  | nil => exact ofWords []
  | cons value rest => exact (operand next value).append (furtherOperands _ rest)

theorem tautology : tautology.IsFrom names := by
  simp [IsFrom, Statement.tautology, Token.IsFrom]

theorem contradiction : contradiction.IsFrom names := by
  simp [IsFrom, Statement.contradiction, Token.IsFrom]

end IsFrom

/-! ## Conditions -/

/-- Whether the condition is rendered, in its own columns alone, as soon as these are valid. -/
def IsWritten (p : Predicate) : Prop :=
  (∀ column ∈ p.columns, isValidName column = true) →
    ∀ next, ∃ s, condition next p = .ok s ∧ s.IsFrom (· ∈ p.columns)

theorem exists_further {ps : List Predicate} (ih : ∀ p ∈ ps, IsWritten p)
    (h : ∀ column ∈ Predicate.columnsOf ps, isValidName column = true) (joiner : Word) (next : Nat) :
    ∃ s, further joiner next ps = .ok s ∧ s.IsFrom (· ∈ Predicate.columnsOf ps) := by
  induction ps generalizing next with
  | nil => exact ⟨_, rfl, .ofWords []⟩
  | cons p rest ih' =>
    obtain ⟨hp, hrest⟩ := List.forall_mem_append.mp h
    obtain ⟨first, hfirst, hfrom⟩ := ih p List.mem_cons_self hp next
    obtain ⟨more, hmore, hfrom'⟩ :=
      ih' (fun q hq => ih q (List.mem_cons_of_mem p hq)) hrest (next + first.params.length)
    refine ⟨_, further_cons.mpr ⟨first, more, hfirst, hmore, rfl⟩, ?_⟩
    exact ((IsFrom.ofWords _).append (hfrom.mono fun _ => List.mem_append_left _)).append
      (hfrom'.mono fun _ => List.mem_append_right _)

theorem exists_group {k : Connective} {p : Predicate} {ps : List Predicate}
    (ih : ∀ q ∈ p :: ps, IsWritten q)
    (h : ∀ column ∈ Predicate.columnsOf (p :: ps), isValidName column = true) (next : Nat) :
    ∃ s, condition next (k.group (p :: ps)) = .ok s ∧
      s.IsFrom (· ∈ Predicate.columnsOf (p :: ps)) := by
  obtain ⟨hp, hps⟩ := List.forall_mem_append.mp h
  obtain ⟨first, hfirst, hfrom⟩ := ih p List.mem_cons_self hp next
  obtain ⟨more, hmore, hfrom'⟩ := exists_further (fun q hq => ih q (List.mem_cons_of_mem p hq)) hps
    k.word (next + first.params.length)
  refine ⟨_, condition_group_cons.mpr ⟨first, more, hfirst, hmore, rfl⟩, ?_⟩
  exact ((hfrom.mono fun _ => List.mem_append_left _).append
    (hfrom'.mono fun _ => List.mem_append_right _)).parenthesized

theorem isWritten (p : Predicate) : IsWritten p := by
  induction p with
  | compare c column value =>
    intro h next
    have hname := h column (List.mem_singleton_self column)
    refine ⟨_, condition_compare.mpr ⟨hname, rfl⟩, ?_⟩
    exact ((IsFrom.name (List.mem_singleton_self column)).append (.ofWords _)).append (.operand _ _)
  | like column pattern =>
    intro h next
    have hname := h column (List.mem_singleton_self column)
    refine ⟨_, condition_like.mpr ⟨hname, rfl⟩, ?_⟩
    exact ((IsFrom.name (List.mem_singleton_self column)).append (.ofWords _)).append (.operand _ _)
  | isIn column values =>
    intro h next
    cases values with
    | nil => exact ⟨_, rfl, .contradiction⟩
    | cons value rest =>
      have hname := h column (List.mem_singleton_self column)
      refine ⟨_, condition_isIn_cons.mpr ⟨hname, rfl⟩, ?_⟩
      exact ((IsFrom.name (List.mem_singleton_self column)).append (.ofWords _)).append
        (IsFrom.operands _ _).parenthesized
  | all ps ih =>
    intro h next
    cases ps with
    | nil => exact ⟨_, rfl, .tautology⟩
    | cons p ps => exact exists_group (k := .and) ih h next
  | any ps ih =>
    intro h next
    cases ps with
    | nil => exact ⟨_, rfl, .contradiction⟩
    | cons p ps => exact exists_group (k := .or) ih h next
  | not p ih =>
    intro h next
    obtain ⟨inner, hinner, hfrom⟩ := ih h next
    exact ⟨_, condition_not.mpr ⟨inner, hinner, rfl⟩, (IsFrom.ofWords _).append hfrom.parenthesized⟩

/-! ## Whole statements -/

/-- A restriction starts with its word, if there is a condition to restrict by. -/
theorem head?_restriction {filter : Option Predicate} (h : restriction filter = .ok s) :
    s.tokens.head? = filter.map fun _ => .word .where := by
  cases filter with
  | none => cases h; rfl
  | some p => obtain ⟨condition, -, rfl⟩ := restriction_eq_ok.mp h; rfl

theorem exists_restriction {filter : Option Predicate}
    (hvalid : ∀ name, names name → isValidName name = true)
    (h : ∀ p, filter = some p → ∀ column ∈ p.columns, names column) :
    ∃ s, restriction filter = .ok s ∧ s.IsFrom names := by
  cases filter with
  | none => exact ⟨_, rfl, .ofWords []⟩
  | some p =>
    obtain ⟨s, hs, hfrom⟩ := isWritten p (fun column hc => hvalid column (h p rfl column hc)) 1
    exact ⟨_, restriction_eq_ok.mpr ⟨s, hs, rfl⟩, (IsFrom.ofWords _).append (hfrom.mono (h p rfl))⟩

/-- Whether the text is that of the tokens and reads as these alone. -/
def IsItsTokens (s : Statement) : Prop :=
  s.text.toList = Token.layout s.tokens ∧ scan s.text.toList = some s.tokens

theorem isItsTokens (h : s.IsReadable) : s.IsItsTokens := by
  have htext : s.text.toList = Token.layout s.tokens := String.toList_ofList
  exact ⟨htext, by rw [htext, scan_layout h]⟩

theorem IsFrom.isReadable (h : s.IsFrom names)
    (hvalid : ∀ name, names name → isValidName name = true) : s.IsReadable :=
  fun t ht => (h t ht).isReadable hvalid

theorem exists_count {table : String} {filter : Option Predicate} {r : Statement}
    (hvalid : ∀ name, names name → isValidName name = true) (htable : names table)
    (hr : restriction filter = .ok r) (hfrom : r.IsFrom names) :
    ∃ s, count table filter = .ok s ∧ s.tokens = [.word .select, .word .countAll, .word .from,
      .name (nameParts table)] ++ r.tokens ∧ s.IsFrom names ∧ s.IsItsTokens := by
  have hs : IsFrom names (ofWords [.select, .countAll, .from] ++
      ofTokens [.name (nameParts table)] ++ r) :=
    ((IsFrom.ofWords _).append (.name htable)).append hfrom
  exact ⟨_, count_eq_ok.mpr ⟨hvalid table htable, r, hr, rfl⟩, rfl, hs,
    isItsTokens (hs.isReadable hvalid)⟩

/-- The page of a selection stands at its end, in front of it nothing but the vocabulary. -/
theorem exists_select {table : String} {q : SelectQuery} {r : Statement}
    (hvalid : ∀ name, names name → isValidName name = true) (htable : names table)
    (hcolumn : names q.orderBy.column) (hr : restriction q.filter = .ok r)
    (hfrom : r.IsFrom names) :
    ∃ s front : Statement, select table q = .ok s ∧
      front.tokens = [.word .select, .word .all, .word .from, .name (nameParts table)] ++ r.tokens ++
        [.word .order, .word .by, .name (nameParts q.orderBy.column),
          .word (directionWord q.orderBy.direction)] ∧
      front.IsFrom names ∧ s.tokens = front.tokens ++
        [.word .limit, .number q.limit.toNat, .word .offset, .number q.offset.toNat] ∧
      s.IsItsTokens := by
  have ho := ordering_eq_ok.mpr ⟨hvalid _ hcolumn, rfl⟩
  have hfront : IsFrom names (ofWords [.select, .all, .from] ++ ofTokens [.name (nameParts table)] ++
      r ++ (ofWords [.order, .by] ++ ofTokens [.name (nameParts q.orderBy.column)] ++
        ofWords [directionWord q.orderBy.direction])) :=
    (((IsFrom.ofWords _).append (.name htable)).append hfrom).append
      (((IsFrom.ofWords _).append (.name hcolumn)).append (.ofWords _))
  have hwindow : (window q.limit q.offset).IsReadable := by simp [IsReadable, window]
  refine ⟨_, _, select_eq_ok.mpr ⟨hvalid table htable, r, hr, _, ho, rfl⟩, rfl, hfront, rfl, ?_⟩
  exact isItsTokens (isReadable_append.mpr ⟨hfront.isReadable hvalid, hwindow⟩)

end Statement

end Sql

end Allowlist
