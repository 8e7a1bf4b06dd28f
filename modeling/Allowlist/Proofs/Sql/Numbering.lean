import Allowlist.Proofs.Sql.Names

/-! # Placeholders stand for the operands in order

What a condition is written from, its columns and operands, is a list of `Mention`s in the order of
the text. A part `Writes` mentions if its names, placeholders and nulls are theirs, one for one, with
the placeholders numbered on from where the part stands, and if its parameters are the operands that
are not null. This passes from parts to wholes by appending, and since no word, name or number holds
a dollar sign, the dollar signs of a text are its placeholders. -/

namespace Allowlist

open Sql Text

/-- What a condition is written from. -/
inductive Mention
  | column (name : Column)
  | operand (value : FieldValue)
  deriving Repr

namespace Mention

def operand? : Mention → Option FieldValue
  | column _ => none
  | operand value => some value

def params (ms : List Mention) : List FieldValue :=
  (ms.filterMap operand?).filter fun value => !value.isNull

/-- The tokens of mentions, where placeholders are numbered from `next` and a null takes none. -/
def tokens (next : Nat) : List Mention → List Token
  | [] => []
  | column name :: rest => .name (nameParts name) :: tokens next rest
  | operand value :: rest =>
    if value.isNull then .word .null :: tokens next rest
    else .placeholder next :: tokens (next + 1) rest

@[simp] theorem params_column (name : Column) (ms : List Mention) :
    params (column name :: ms) = params ms := rfl

@[simp] theorem params_operand (value : FieldValue) (ms : List Mention) :
    params (operand value :: ms) = if value.isNull then params ms else value :: params ms := by
  cases hnull : value.isNull <;> simp [params, operand?, hnull]

theorem params_append (ms ms' : List Mention) : params (ms ++ ms') = params ms ++ params ms' := by
  simp [params]

theorem tokens_append (next : Nat) (ms ms' : List Mention) :
    tokens next (ms ++ ms') = tokens next ms ++ tokens (next + (params ms).length) ms' := by
  induction ms generalizing next with
  | nil => rfl
  | cons m ms ih =>
    cases m with
    | column name => simp [tokens, ih]
    | operand value =>
      cases hnull : value.isNull <;> simp [tokens, ih, hnull, Nat.add_assoc, Nat.add_comm 1]

end Mention

namespace Predicate

mutual

/-- The columns and operands of a condition from left to right; a pattern is a text, and a list
without items is written without its column. -/
def mentions : Predicate → List Mention
  | compare _ column value => [.column column, .operand value]
  | like column pattern => [.column column, .operand (.string pattern)]
  | isIn _ [] => []
  | isIn column (value :: values) => .column column :: (value :: values).map .operand
  | all conditions => mentionsOf conditions
  | any conditions => mentionsOf conditions
  | not condition => mentions condition

def mentionsOf : List Predicate → List Mention
  | [] => []
  | p :: rest => mentions p ++ mentionsOf rest

end

end Predicate

namespace Sql

/-- Whether the token stands for something that is mentioned. -/
def Token.isMark : Token → Bool
  | name _ => true
  | placeholder _ => true
  | word w => w = .null
  | number _ => false

namespace Statement
variable {s t : Statement} {next : Nat} {ms ms' : List Mention}

/-- The names, placeholders and nulls of the part are those of the mentions, and so are its
parameters. -/
structure Writes (s : Statement) (next : Nat) (ms : List Mention) : Prop where
  marks : s.tokens.filter Token.isMark = Mention.tokens next ms
  params : s.params = Mention.params ms

namespace Writes

theorem append (h : s.Writes next ms) (h' : t.Writes (next + s.params.length) ms') :
    (s ++ t).Writes next (ms ++ ms') := by
  refine ⟨?_, ?_⟩
  · rw [tokens_append, List.filter_append, h.marks, h'.marks, Mention.tokens_append, h.params]
  · rw [params_append, h.params, h'.params, Mention.params_append]

theorem ofWords {ws : List Word} (h : .null ∉ ws) : (ofWords ws).Writes next [] := by
  refine ⟨List.filter_eq_nil_iff.mpr fun t ht => ?_, rfl⟩
  obtain ⟨w, hw, rfl⟩ := List.mem_map.mp ht
  have hne : w ≠ .null := fun hnull => h (hnull ▸ hw)
  simp [Token.isMark, hne]

theorem words_append (ws : List Word) (hw : .null ∉ ws) (h : s.Writes next ms) :
    (Statement.ofWords ws ++ s).Writes next ms :=
  (ofWords hw).append h

theorem append_words (ws : List Word) (hw : .null ∉ ws) (h : s.Writes next ms) :
    (s ++ Statement.ofWords ws).Writes next ms := by
  simpa using h.append (ofWords hw)

theorem empty : (Statement.ofWords []).Writes next [] := ⟨rfl, rfl⟩

theorem name (column : Column) (next : Nat) :
    (ofTokens [.name (nameParts column)]).Writes next [.column column] := ⟨rfl, rfl⟩

theorem parenthesized (h : s.Writes next ms) : s.parenthesized.Writes next ms :=
  (h.words_append [.opening] (by simp)).append_words [.closing] (by simp)

theorem operand (next : Nat) (value : FieldValue) :
    (operand next value).Writes next [.operand value] := by
  unfold Statement.operand
  cases hnull : value.isNull <;> refine ⟨?_, ?_⟩ <;>
    simp [Mention.tokens, Mention.params, Mention.operand?, Token.isMark, hnull]

theorem furtherOperands (next : Nat) (values : List FieldValue) :
    (furtherOperands next values).Writes next (values.map .operand) := by
  induction values generalizing next with
  | nil => exact .empty
  | cons value values ih =>
    exact ((operand next value).words_append [.comma] (by simp)).append (ih _)

theorem operands (next : Nat) (values : List FieldValue) :
    (operands next values).Writes next (values.map .operand) := by
  cases values with
  | nil => exact .empty
  | cons value values => exact (operand next value).append (furtherOperands _ values)

theorem atom {column : Column} {w : Word} (hw : w ≠ .null) (h : s.Writes next ms) :
    (ofTokens [.name (nameParts column)] ++ Statement.ofWords [w] ++ s).Writes next
      (.column column :: ms) :=
  ((name column next).append_words [w] (by simpa using hw.symm)).append h

theorem tautology : tautology.Writes next [] := ⟨rfl, rfl⟩

theorem contradiction : contradiction.Writes next [] := ⟨rfl, rfl⟩

end Writes

/-! ## Conditions -/

theorem writes_further {joiner : Word} (hj : joiner ≠ .null) {ps : List Predicate}
    (ih : ∀ p ∈ ps, ∀ next s, condition next p = .ok s → s.Writes next p.mentions)
    (h : further joiner next ps = .ok s) : s.Writes next (Predicate.mentionsOf ps) := by
  induction ps generalizing next s with
  | nil => exact Except.ok.inj h ▸ .empty
  | cons p ps ih' =>
    obtain ⟨first, more, hfirst, hmore, rfl⟩ := further_cons.mp h
    have hp := (ih p List.mem_cons_self next first hfirst).words_append [joiner]
      (by simpa using hj.symm)
    exact hp.append (ih' (fun q hq => ih q (List.mem_cons_of_mem p hq)) hmore)

theorem writes_group {k : Connective} {p : Predicate} {ps : List Predicate}
    (ih : ∀ q ∈ p :: ps, ∀ next s, condition next q = .ok s → s.Writes next q.mentions)
    (h : condition next (k.group (p :: ps)) = .ok s) :
    s.Writes next (Predicate.mentionsOf (p :: ps)) := by
  obtain ⟨first, more, hfirst, hmore, rfl⟩ := condition_group_cons.mp h
  have hjoiner : k.word ≠ .null := by cases k <;> decide
  have hp := ih p List.mem_cons_self next first hfirst
  exact (hp.append (writes_further hjoiner (fun q hq => ih q (List.mem_cons_of_mem p hq))
    hmore)).parenthesized

theorem writes_condition (p : Predicate) : ∀ next s, condition next p = .ok s →
    s.Writes next p.mentions := by
  -- `next` differs from part to part, by the parameters of the parts in front, nulls aside
  induction p with
  | compare c column value =>
    intro next s h
    obtain ⟨-, rfl⟩ := condition_compare.mp h
    exact .atom (by cases c <;> decide) (.operand next value)
  | like column pattern =>
    intro next s h
    obtain ⟨-, rfl⟩ := condition_like.mp h
    exact .atom (by decide) (.operand next (.string pattern))
  | isIn column values =>
    intro next s h
    cases values with
    | nil => exact Except.ok.inj h ▸ .contradiction
    | cons value values =>
      obtain ⟨-, rfl⟩ := condition_isIn_cons.mp h
      exact .atom (by decide) (Writes.operands next (value :: values)).parenthesized
  | all ps ih =>
    intro next s h
    cases ps with
    | nil => exact Except.ok.inj h ▸ .tautology
    | cons p ps => exact writes_group (k := .and) ih h
  | any ps ih =>
    intro next s h
    cases ps with
    | nil => exact Except.ok.inj h ▸ .contradiction
    | cons p ps => exact writes_group (k := .or) ih h
  | not p ih =>
    intro next s h
    obtain ⟨inner, hinner, rfl⟩ := condition_not.mp h
    exact (ih next inner hinner).parenthesized.words_append [.not] (by simp)

def mentions? (filter : Option Predicate) : List Mention := filter.elim [] Predicate.mentions

theorem writes_restriction {filter : Option Predicate} (h : restriction filter = .ok s) :
    s.Writes 1 (mentions? filter) := by
  cases filter with
  | none => exact Except.ok.inj h ▸ .empty
  | some p =>
    obtain ⟨c, hc, rfl⟩ := restriction_eq_ok.mp h
    exact (writes_condition p 1 c hc).words_append [.where] (by simp)

theorem writes_count {table : String} {filter : Option Predicate} (h : count table filter = .ok s) :
    s.Writes 1 (.column table :: mentions? filter) := by
  obtain ⟨-, r, hr, rfl⟩ := count_eq_ok.mp h
  exact ((Writes.name table 1).words_append [.select, .countAll, .from] (by simp)).append
    (writes_restriction hr)

theorem writes_select {table : String} {q : SelectQuery} (h : select table q = .ok s) :
    s.Writes 1 (.column table :: (mentions? q.filter ++ [.column q.orderBy.column])) := by
  obtain ⟨-, r, hr, o, ho, rfl⟩ := select_eq_ok.mp h
  obtain ⟨-, rfl⟩ := ordering_eq_ok.mp ho
  have hfront := ((Writes.name table 1).words_append [.select, .all, .from] (by simp)).append
    (writes_restriction hr)
  have horder (next : Nat) := ((Writes.name q.orderBy.column next).words_append
    [.order, .by] (by simp)).append_words [directionWord q.orderBy.direction]
    (by cases q.orderBy.direction <;> simp [directionWord])
  have hwindow (next : Nat) : (window q.limit q.offset).Writes next [] := ⟨rfl, rfl⟩
  simpa using (hfront.append (horder _)).append (hwindow _)

end Statement

/-! ## Dollar signs -/

/-- The digits behind each dollar sign of a text. -/
def dollars : List Char → List (List Char)
  | [] => []
  | c :: rest => if c = '$' then rest.takeWhile isDigit :: dollars rest else dollars rest

theorem dollars_append {s : List Char} (h : '$' ∉ s) (t : List Char) :
    dollars (s ++ t) = dollars t := by
  induction s with
  | nil => rfl
  | cons c s ih =>
    obtain ⟨hc, hs⟩ := not_or.mp (mt List.mem_cons.mpr h)
    rw [List.cons_append, dollars, if_neg (Ne.symm hc), ih hs]

theorem dollar_not_mem_decimal (n : Nat) : '$' ∉ decimal n := fun h =>
  absurd (isDigit_of_mem_decimal h) (by decide)

namespace Token

def index? : Token → Option Nat
  | placeholder index => some index
  | _ => none

/-- Only placeholders have a dollar sign. -/
theorem dollar_not_mem_text {names : String → Prop} {t : Token} (h : t.IsFrom names)
    (hvalid : ∀ name, names name → isValidName name = true) (hindex : t.index? = none) :
    '$' ∉ t.text := by
  cases t with
  | word w => cases w <;> decide
  | placeholder n => cases hindex
  | number n => exact dollar_not_mem_decimal n
  | name parts =>
    obtain ⟨name, hname, rfl⟩ := h
    have hparts := (Bool.and_eq_true_iff.mp (hvalid name hname)).2
    refine not_mem_intercalate (by decide) fun piece hpiece => ?_
    obtain ⟨part, hpart, rfl⟩ := List.mem_map.mp hpiece
    have hpart' := isIdentifier_iff.mp (List.all_eq_true.mp hparts part hpart)
    have hdollar : '$' ∉ part := hpart'.not_mem (by unfold IsLetter; decide) (by decide)
    simp [quotedPart, hdollar]

theorem layout_eq_layoutAfter (ts : List Token) : layout ts = layoutAfter (.word .opening) ts := by
  cases ts <;> simp [layout, layoutAfter, isSpaced]

/-- The dollar signs of a text are those of its placeholders, each with the number it has. -/
theorem dollars_layoutAfter (before : Token) {ts : List Token}
    (h : ∀ t ∈ ts, t.index? = none → '$' ∉ t.text) :
    dollars (layoutAfter before ts) = (ts.filterMap index?).map decimal := by
  induction ts generalizing before with
  | nil => rfl
  | cons t ts ih =>
    obtain ⟨ht, hts⟩ := List.forall_mem_cons.mp h
    have hspace : '$' ∉ (if isSpaced before t then [' '] else [] : List Char) := by
      split <;> decide
    rw [layoutAfter, List.append_assoc, dollars_append hspace]
    cases hindex : t.index? with
    | none =>
      rw [dollars_append (ht hindex), ih t hts, List.filterMap_cons_none hindex]
    | some n =>
      obtain rfl : t = .placeholder n := by
        cases t with
        | placeholder m => rw [Option.some.inj hindex]
        | _ => cases hindex
      have hends : EndsToken (layoutAfter (.placeholder n) ts) := endsToken_layoutAfter (by simp) ts
      rw [List.filterMap_cons_some hindex, List.map_cons, ← ih (.placeholder n) hts, text,
        List.cons_append, dollars, if_pos rfl, dollars_append (dollar_not_mem_decimal n),
        takeWhile_append_of_all (fun _ => isDigit_of_mem_decimal) hends.not_digit]

end Token

theorem filterMap_index?_marks (ts : List Token) :
    (ts.filter Token.isMark).filterMap Token.index? = ts.filterMap Token.index? := by
  rw [List.filterMap_filter]
  congr 1
  funext t
  cases t <;> simp [Token.isMark, Token.index?]

theorem filterMap_index?_mentions (next : Nat) (ms : List Mention) :
    (Mention.tokens next ms).filterMap Token.index? =
      List.range' next (Mention.params ms).length := by
  induction ms generalizing next with
  | nil => rfl
  | cons m ms ih =>
    cases m with
    | column name => rw [Mention.tokens, List.filterMap_cons_none rfl, ih, Mention.params_column]
    | operand value =>
      cases hnull : value.isNull with
      | true =>
        rw [Mention.tokens, if_pos hnull, List.filterMap_cons_none rfl, ih, Mention.params_operand,
          if_pos hnull]
      | false =>
        have hindex : (Token.placeholder next).index? = some next := rfl
        rw [Mention.tokens, hnull, if_neg Bool.false_ne_true, List.filterMap_cons_some hindex, ih,
          Mention.params_operand, hnull, if_neg Bool.false_ne_true, List.length_cons,
          List.range'_succ]

namespace Statement
variable {s : Statement} {table : String} {filter : Option Predicate} {behind : List Mention}

/-- The parameters of a statement are the operands of its condition that are not null, in their order,
and the dollar signs of its text count them from one on. The text reads as its tokens alone; the
names, placeholders and nulls among these are those of the table, of the condition and of what stands
behind it, each in its place. -/
structure LinesUp (s : Statement) (table : String) (filter : Option Predicate)
    (behind : List Mention) : Prop where
  params : s.params = ((mentions? filter).filterMap Mention.operand?).filter (!·.isNull)
  not_null : ∀ value ∈ s.params, value ≠ .null
  dollars : dollars s.text.toList = (List.range' 1 s.params.length).map decimal
  reads : s.IsItsTokens
  marks : s.tokens.filter Token.isMark =
    Mention.tokens 1 (.column table :: (mentions? filter ++ behind))

theorem LinesUp.of_writes
    (hw : s.Writes 1 (.column table :: (mentions? filter ++ behind)))
    (hbehind : Mention.params behind = []) (hs : s.IsItsTokens)
    (hdollar : ∀ t ∈ s.tokens, t.index? = none → '$' ∉ t.text) :
    s.LinesUp table filter behind := by
  have hparams : s.params = Mention.params (mentions? filter) := by
    rw [hw.params, Mention.params_column, Mention.params_append, hbehind, List.append_nil]
  refine ⟨hparams, fun value hvalue hnull => ?_, ?_, hs, hw.marks⟩
  · rw [hparams] at hvalue
    have hkept := (List.mem_filter.mp hvalue).2
    rw [hnull] at hkept
    cases hkept
  · rw [hs.1, Token.layout_eq_layoutAfter, Token.dollars_layoutAfter _ hdollar,
      ← filterMap_index?_marks, hw.marks, filterMap_index?_mentions, hw.params]

/-- Placeholders and parameters line up one to one in whatever is written. -/
theorem placeholders_line_up (table : String) :
    (∀ q s, select table q = .ok s → s.LinesUp table q.filter [.column q.orderBy.column]) ∧
      ∀ filter s, count table filter = .ok s → s.LinesUp table filter [] := by
  refine ⟨fun q s h => ?_, fun filter s h => ?_⟩
  · have hvalid := (h ▸ checks_select table q).isValidName
    have hcolumns : ∀ p, q.filter = some p → ∀ column ∈ p.columns,
        column ∈ table :: (columns? q.filter ++ [q.orderBy.column]) := by
      intro p hp column hc
      simp [columns?, hp, hc]
    obtain ⟨r, hr, hrfrom⟩ := exists_restriction hvalid hcolumns
    obtain ⟨s', front, hs', -, hfrom, htokens, hreads⟩ :=
      exists_select hvalid List.mem_cons_self (by simp) hr hrfrom
    obtain rfl := Except.ok.inj (h.symm.trans hs')
    refine .of_writes (writes_select h) rfl hreads fun t ht hindex => ?_
    rw [htokens, List.mem_append] at ht
    rcases ht with ht | ht
    · exact Token.dollar_not_mem_text (hfrom t ht) hvalid hindex
    · simp only [List.mem_cons, List.not_mem_nil, or_false] at ht
      rcases ht with rfl | rfl | rfl | rfl
      · decide
      · exact dollar_not_mem_decimal _
      · decide
      · exact dollar_not_mem_decimal _
  · have hvalid := (h ▸ checks_count table filter).isValidName
    have hcolumns : ∀ p, filter = some p → ∀ column ∈ p.columns, column ∈ table :: columns? filter := by
      intro p hp column hc
      simp [columns?, hp, hc]
    obtain ⟨r, hr, hrfrom⟩ := exists_restriction hvalid hcolumns
    obtain ⟨s', hs', -, hfrom, hreads⟩ := exists_count hvalid List.mem_cons_self hr hrfrom
    obtain rfl := Except.ok.inj (h.symm.trans hs')
    refine .of_writes (by simpa using writes_count h) rfl hreads fun t ht hindex => ?_
    exact Token.dollar_not_mem_text (hfrom t ht) hvalid hindex

/-- Between its operands stand nulls, a list without items and a group without conditions, and one of
them has a dollar sign of its own. -/
def gappedQuery : SelectQuery where
  filter := some (.all [.isIn "kind" [.string "a", .null, .integer 7],
    .any [.isIn "kind" [], .not (.like "shop.name" "%$1%")], .any [], .compare .eq "sold" .null,
    .compare .lt "price" (.integer 3)])
  orderBy := ⟨"id", .desc⟩
  limit := 20
  offset := 40

theorem gapped_operands_line_up :
    ∃ s t, select "items" gappedQuery = .ok s ∧ count "items" gappedQuery.filter = .ok t ∧
      s.params = [.string "a", .integer 7, .string "%$1%", .integer 3] ∧
      s.LinesUp "items" gappedQuery.filter [.column "id"] ∧
      t.LinesUp "items" gappedQuery.filter [] := by
  obtain ⟨s, hs⟩ : ∃ s, select "items" gappedQuery = .ok s := ⟨_, rfl⟩
  obtain ⟨t, ht⟩ : ∃ t, count "items" gappedQuery.filter = .ok t := ⟨_, rfl⟩
  obtain ⟨hselect, hcount⟩ := placeholders_line_up "items"
  have hlines := hselect gappedQuery s hs
  exact ⟨s, t, hs, ht, hlines.params, hlines, hcount _ t ht⟩

end Statement

end Sql

end Allowlist
