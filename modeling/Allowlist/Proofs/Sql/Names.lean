import Allowlist.Proofs.Sql.Vocabulary

/-! # Which names stop a statement

A statement is written from left to right, and each name is looked at when its turn comes: that of
the table first, then the columns of the condition, the column of the order last. `Checks` says that
nothing else can go wrong and that the first name that is not valid is the one that is told. Since a
count looks at the same names but the last, it is written whenever the selection is, and both have
the same text behind `WHERE`. -/

namespace Allowlist.Sql

open Text

/-! ## Valid names -/

def IsLetter (c : Char) : Prop := ('a' ≤ c ∧ c ≤ 'z') ∨ ('A' ≤ c ∧ c ≤ 'Z') ∨ c = '_'

/-- A letter, or the low line, and then any number of these and of digits. -/
def IsNamePart : List Char → Prop
  | [] => False
  | c :: rest => IsLetter c ∧ ∀ d ∈ rest, IsLetter d ∨ ('0' ≤ d ∧ d ≤ '9')

/-- One part, or two of them with a point in between. -/
def IsName (name : String) : Prop :=
  IsNamePart name.toList ∨
    ∃ first second, name.toList = first ++ '.' :: second ∧ IsNamePart first ∧ IsNamePart second

theorem isAlpha_iff {c : Char} : c.isAlpha = true ↔ ('A' ≤ c ∧ c ≤ 'Z') ∨ ('a' ≤ c ∧ c ≤ 'z') := by
  have hupper : c.isUpper = true ↔ 'A' ≤ c ∧ c ≤ 'Z' := decide_eq_true_iff
  have hlower : c.isLower = true ↔ 'a' ≤ c ∧ c ≤ 'z' :=
    Bool.and_eq_true_iff.trans (and_congr decide_eq_true_iff decide_eq_true_iff)
  exact Bool.or_eq_true_iff.trans (or_congr hupper hlower)

theorem isIdentifierStart_iff {c : Char} : isIdentifierStart c = true ↔ IsLetter c := by
  rw [isIdentifierStart, Bool.or_eq_true_iff, isAlpha_iff, decide_eq_true_iff, IsLetter, or_assoc,
    or_left_comm]

theorem isIdentifier_iff {part : List Char} : isIdentifier part = true ↔ IsNamePart part := by
  cases part with
  | nil => simp [isIdentifier, IsNamePart]
  | cons c rest => simp [isIdentifier, IsNamePart, isIdentifierStart_iff, isDigit_iff]

theorem IsNamePart.not_mem {part : List Char} {c : Char} (hletter : ¬ IsLetter c)
    (hdigit : ¬ ('0' ≤ c ∧ c ≤ '9')) (h : IsNamePart part) : c ∉ part := by
  cases part with
  | nil => exact h.elim
  | cons d rest =>
    rw [List.mem_cons, not_or]
    refine ⟨fun hc => hletter (hc ▸ h.1), fun hmem => ?_⟩
    rcases h.2 c hmem with hc | hc
    · exact hletter hc
    · exact hdigit hc

theorem IsNamePart.point_not_mem {part : List Char} (h : IsNamePart part) : '.' ∉ part :=
  h.not_mem (by unfold IsLetter; decide) (by decide)

theorem isValidName_iff {name : String} : isValidName name = true ↔ IsName name := by
  have hjoined : ['.'].intercalate (nameParts name) = name.toList := intercalate_splitAt _ _
  simp only [isValidName, Bool.and_eq_true, decide_eq_true_eq, List.all_eq_true, isIdentifier_iff]
  constructor
  · rintro ⟨hlen, hparts⟩
    rcases hp : nameParts name with _ | ⟨first, _ | ⟨second, _ | ⟨third, rest⟩⟩⟩ <;>
      rw [hp] at hlen hparts hjoined
    · exact absurd hp (splitAt_ne_nil _ _)
    · rw [List.intercalate_singleton] at hjoined
      exact .inl (hjoined ▸ hparts first (by simp))
    · rw [List.intercalate_cons_cons, List.intercalate_singleton] at hjoined
      exact .inr ⟨first, second, by simp [← hjoined], hparts first (by simp),
        hparts second (by simp)⟩
    · simp only [List.length_cons] at hlen
      omega
  · rintro (hpart | ⟨first, second, hname, hfirst, hsecond⟩)
    · have hsplit : nameParts name = [name.toList] := splitAt_of_not_mem hpart.point_not_mem
      simp [hsplit, hpart]
    · have hsplit : nameParts name = [first, second] := by
        rw [nameParts, hname, splitAt_append hfirst.point_not_mem,
          splitAt_of_not_mem hsecond.point_not_mem]
      simp [hsplit, hfirst, hsecond]

def IsFirstInvalid (names : List String) (name : String) : Prop :=
  ∃ before after, names = before ++ name :: after ∧ (∀ n ∈ before, IsName n) ∧ ¬ IsName name

namespace IsFirstInvalid
variable {names others : List String} {name other : String}

theorem mem (h : IsFirstInvalid names name) : name ∈ names := by
  obtain ⟨before, after, rfl, -, -⟩ := h
  simp

theorem not_isName (h : IsFirstInvalid names name) : ¬ IsName name := by
  obtain ⟨_, _, _, _, hname⟩ := h
  exact hname

theorem append (h : IsFirstInvalid names name) (others : List String) :
    IsFirstInvalid (names ++ others) name := by
  obtain ⟨before, after, rfl, hbefore, hname⟩ := h
  exact ⟨before, after ++ others, by simp, hbefore, hname⟩

theorem behind (h : IsFirstInvalid others name) (hnames : ∀ n ∈ names, IsName n) :
    IsFirstInvalid (names ++ others) name := by
  obtain ⟨before, after, rfl, hbefore, hname⟩ := h
  exact ⟨names ++ before, after, by simp, List.forall_mem_append.mpr ⟨hnames, hbefore⟩, hname⟩

theorem unique (h : IsFirstInvalid names name) (h' : IsFirstInvalid names other) :
    other = name := by
  obtain ⟨before, after, rfl, hbefore, hname⟩ := h
  obtain ⟨before', after', heq, hbefore', hother⟩ := h'
  -- were one of the two further on, the other would be among the valid names in front of it
  rcases List.append_eq_append_iff.mp heq with ⟨more, rfl, hmore⟩ | ⟨more, rfl, hmore⟩
  · cases more with
    | nil => exact (List.cons.inj hmore).1.symm
    | cons n more =>
      obtain rfl : name = n := (List.cons.inj hmore).1
      exact absurd (hbefore' name (by simp)) hname
  · cases more with
    | nil => exact (List.cons.inj hmore).1
    | cons n more =>
      obtain rfl : other = n := (List.cons.inj hmore).1
      exact absurd (hbefore other (by simp)) hother

end IsFirstInvalid

/-! ## Names in their order -/

namespace Statement
variable {s t : Statement} {x : Except StoreError Statement} {names others : List String}

/-- What comes of looking at the names one after the other: a statement if all of them are valid, or
else the first that is not as the error. -/
inductive Checks : Except StoreError Statement → List String → Prop
  | ok {s : Statement} {names : List String} (valid : ∀ name ∈ names, IsName name) :
      Checks (.ok s) names
  | error {names : List String} {name : String} (first : IsFirstInvalid names name) :
      Checks (.error (.invalidIdentifier name)) names

namespace Checks

theorem pure (s : Statement) : Checks (.ok s) [] := .ok fun _ h => by cases h

theorem ofName (name : String) : Checks (ofName name) [name] := by
  cases hvalid : isValidName name with
  | true =>
    rw [ofName_eq_ok.mpr ⟨hvalid, rfl⟩]
    exact .ok fun n hn => List.mem_singleton.mp hn ▸ isValidName_iff.mp hvalid
  | false =>
    have herror : Statement.ofName name = .error (.invalidIdentifier name) := by
      simp [Statement.ofName, Token.ofName, hvalid, Except.map]
    rw [herror]
    refine .error ⟨[], [], rfl, by simp, fun h => ?_⟩
    rw [isValidName_iff.mpr h] at hvalid
    cases hvalid

theorem bind {f : Statement → Except StoreError Statement} (h : Checks x names)
    (hf : ∀ s, Checks (f s) others) : Checks (x >>= f) (names ++ others) := by
  cases h with
  | error first => exact .error (first.append others)
  | @ok s _ valid =>
    have hfs := hf s
    show Checks (f s) (names ++ others)
    generalize f s = y at hfs ⊢
    cases hfs with
    | ok valid' => exact .ok (List.forall_mem_append.mpr ⟨valid, valid'⟩)
    | error first => exact .error (first.behind valid)

theorem map (h : Checks x names) (f : Statement → Statement) :
    Checks (x >>= fun s => .ok (f s)) names := by
  simpa using h.bind fun s => pure (f s)

theorem eq_error_iff {e : StoreError} (h : Checks x names) :
    x = .error e ↔ ∃ name, IsFirstInvalid names name ∧ e = .invalidIdentifier name := by
  cases h with
  | ok valid =>
    constructor
    · intro h; cases h
    · rintro ⟨name, first, -⟩
      exact absurd (valid name first.mem) first.not_isName
  | @error _ name first =>
    constructor
    · rintro ⟨⟩; exact ⟨name, first, rfl⟩
    · rintro ⟨other, first', rfl⟩; rw [first.unique first']

theorem fails_iff (h : Checks x names) :
    (∃ e, x = .error e) ↔ ∃ name ∈ names, ¬ IsName name := by
  cases h with
  | ok valid =>
    constructor
    · rintro ⟨e, he⟩; cases he
    · rintro ⟨name, hmem, hname⟩; exact absurd (valid name hmem) hname
  | @error _ name first => exact ⟨fun _ => ⟨name, first.mem, first.not_isName⟩, fun _ => ⟨_, rfl⟩⟩

theorem isValidName (h : Checks (.ok s) names) : ∀ name ∈ names, isValidName name = true := by
  cases h with
  | ok valid => exact fun name hname => isValidName_iff.mpr (valid name hname)

end Checks

theorem checks_further {joiner : Word} {ps : List Predicate}
    (ih : ∀ p ∈ ps, ∀ next, Checks (condition next p) p.columns) (next : Nat) :
    Checks (further joiner next ps) (Predicate.columnsOf ps) := by
  induction ps generalizing next with
  | nil => exact .pure _
  | cons p ps ih' =>
    unfold further
    refine (ih p List.mem_cons_self next).bind fun first => ?_
    exact (ih' (fun q hq => ih q (List.mem_cons_of_mem p hq)) _).map _

theorem checks_group {k : Connective} {p : Predicate} {ps : List Predicate}
    (ih : ∀ q ∈ p :: ps, ∀ next, Checks (condition next q) q.columns) (next : Nat) :
    Checks (condition next (k.group (p :: ps))) (Predicate.columnsOf (p :: ps)) := by
  have hgroup : Checks
      (condition next p >>= fun first =>
        further k.word (next + first.params.length) ps >>= fun more =>
          pure (parenthesized (first ++ more))) (Predicate.columnsOf (p :: ps)) := by
    refine (ih p List.mem_cons_self next).bind fun first => ?_
    exact (checks_further (fun q hq => ih q (List.mem_cons_of_mem p hq)) _).map _
  cases k <;> simpa only [Connective.group, Connective.word, condition] using hgroup

theorem checks_condition (p : Predicate) (next : Nat) : Checks (condition next p) p.columns := by
  induction p generalizing next with
  | compare c column value => unfold condition; exact (Checks.ofName column).map _
  | like column pattern => unfold condition; exact (Checks.ofName column).map _
  | isIn column values =>
    cases values with
    | nil => exact .pure _
    | cons value values => unfold condition; exact (Checks.ofName column).map _
  | all ps ih =>
    cases ps with
    | nil => exact .pure _
    | cons p ps => exact checks_group (k := .and) ih next
  | any ps ih =>
    cases ps with
    | nil => exact .pure _
    | cons p ps => exact checks_group (k := .or) ih next
  | not p ih => unfold condition; exact (ih next).map _

def columns? (filter : Option Predicate) : List Column := filter.elim [] Predicate.columns

theorem checks_restriction (filter : Option Predicate) :
    Checks (restriction filter) (columns? filter) := by
  cases filter with
  | none => exact .pure _
  | some p => exact (checks_condition p 1).map _

theorem checks_select (table : String) (q : SelectQuery) :
    Checks (select table q) (table :: (columns? q.filter ++ [q.orderBy.column])) := by
  unfold select
  refine (Checks.ofName table).bind fun name => (checks_restriction q.filter).bind fun filter => ?_
  exact ((Checks.ofName q.orderBy.column).map _).map _

theorem checks_count (table : String) (filter : Option Predicate) :
    Checks (count table filter) (table :: columns? filter) := by
  unfold count
  exact (Checks.ofName table).bind fun name => (checks_restriction filter).map _

end Statement

/-! ## The text behind `WHERE` -/

theorem Token.layoutAfter_append (before : Token) (ts us : List Token) :
    layoutAfter before (ts ++ us) = layoutAfter before ts ++ layoutAfter (ts.getLastD before) us := by
  induction ts generalizing before with
  | nil => rfl
  | cons t ts ih =>
    rw [List.cons_append, layoutAfter, layoutAfter, ih, List.getLastD_cons]
    simp only [List.append_assoc]

theorem Token.layoutAfter_eq_flatMap {before : Token} (h : before ≠ .word .opening) {ts : List Token}
    (hts : ∀ t ∈ ts, t ≠ .word .opening ∧ t ≠ .word .closing ∧ t ≠ .word .comma) :
    layoutAfter before ts = ts.flatMap fun t => ' ' :: t.text := by
  induction ts generalizing before with
  | nil => rfl
  | cons t ts ih =>
    obtain ⟨⟨hopening, hclosing, hcomma⟩, hrest⟩ := List.forall_mem_cons.mp hts
    have hspaced : isSpaced before t = true := by simp [isSpaced, h, hclosing, hcomma]
    rw [layoutAfter, if_pos hspaced, ih hopening hrest, List.flatMap_cons]
    rfl

def quotedName (name : String) : List Char := Token.text (.name (nameParts name))

/-- The text behind the condition of a selection: its order and its page. -/
def orderedPage (q : SelectQuery) : List Char :=
  " ORDER BY ".toList ++ (quotedName q.orderBy.column ++
    (" ".toList ++ ((Statement.directionWord q.orderBy.direction).text.toList ++
      (" LIMIT ".toList ++ (decimal q.limit.toNat ++
        (" OFFSET ".toList ++ decimal q.offset.toNat))))))

namespace Statement
variable {table : String} {q : SelectQuery} {filter : Option Predicate} {r : Statement}

/-- The token is the last of the part and opens nothing. -/
def EndsIn (s : Statement) (t : Token) : Prop :=
  (∃ front, s.tokens = front ++ [t]) ∧ t ≠ .word .opening

theorem EndsIn.append {u : Token} (h : t.EndsIn u) (s : Statement) : (s ++ t).EndsIn u := by
  obtain ⟨⟨front, hfront⟩, hu⟩ := h
  exact ⟨⟨s.tokens ++ front, by simp [hfront]⟩, hu⟩

theorem endsIn_parenthesized (s : Statement) : s.parenthesized.EndsIn (.word .closing) :=
  ⟨⟨.word .opening :: s.tokens, rfl⟩, by decide⟩

theorem exists_endsIn_operand (next : Nat) (value : FieldValue) :
    ∃ t, (operand next value).EndsIn t := by
  unfold operand
  split
  · exact ⟨.word .null, ⟨[], rfl⟩, by decide⟩
  · exact ⟨.placeholder next, ⟨[], rfl⟩, by simp⟩

theorem exists_endsIn {p : Predicate} {next : Nat} (h : condition next p = .ok s) :
    ∃ t, s.EndsIn t := by
  -- no induction: whatever holds further conditions ends in its own closing parenthesis
  have hgroup {k : Connective} {p : Predicate} {ps : List Predicate}
      (h : condition next (k.group (p :: ps)) = .ok s) : ∃ t, s.EndsIn t := by
    obtain ⟨first, more, -, -, rfl⟩ := condition_group_cons.mp h
    exact ⟨_, endsIn_parenthesized _⟩
  cases p with
  | compare c column value =>
    obtain ⟨-, rfl⟩ := condition_compare.mp h
    obtain ⟨t, ht⟩ := exists_endsIn_operand next value
    exact ⟨t, ht.append _⟩
  | like column pattern =>
    obtain ⟨-, rfl⟩ := condition_like.mp h
    obtain ⟨t, ht⟩ := exists_endsIn_operand next (.string pattern)
    exact ⟨t, ht.append _⟩
  | isIn column values =>
    cases values with
    | nil => exact Except.ok.inj h ▸ ⟨.number 0, ⟨[.number 1, .word .eq], rfl⟩, by decide⟩
    | cons value values =>
      obtain ⟨-, rfl⟩ := condition_isIn_cons.mp h
      exact ⟨_, (endsIn_parenthesized _).append _⟩
  | all ps =>
    cases ps with
    | nil => exact Except.ok.inj h ▸ ⟨.number 1, ⟨[.number 1, .word .eq], rfl⟩, by decide⟩
    | cons p ps => exact hgroup (k := .and) h
  | any ps =>
    cases ps with
    | nil => exact Except.ok.inj h ▸ ⟨.number 0, ⟨[.number 1, .word .eq], rfl⟩, by decide⟩
    | cons p ps => exact hgroup (k := .or) h
  | not p =>
    obtain ⟨inner, -, rfl⟩ := condition_not.mp h
    exact ⟨_, (endsIn_parenthesized _).append _⟩

/-- The text of a condition with its `WHERE`, behind the name of a table; none without a condition. -/
def clauseText (table : String) (r : Statement) : List Char :=
  Token.layoutAfter (.name (nameParts table)) r.tokens

theorem clauseText_of_none (h : restriction none = .ok r) : clauseText table r = [] := by
  obtain rfl := Except.ok.inj h
  rfl

theorem clauseText_of_some {p : Predicate} (h : restriction (some p) = .ok r) :
    ∃ after, clauseText table r = " WHERE".toList ++ after := by
  obtain ⟨c, -, rfl⟩ := restriction_eq_ok.mp h
  exact ⟨Token.layoutAfter (.word .where) c.tokens, rfl⟩

theorem getLastD_restriction (h : restriction filter = .ok r) :
    r.tokens.getLastD (.name (nameParts table)) ≠ .word .opening := by
  cases filter with
  | none =>
    obtain rfl := Except.ok.inj h
    simp [ofTokens]
  | some p =>
    obtain ⟨c, hc, rfl⟩ := restriction_eq_ok.mp h
    obtain ⟨t, ⟨front, hfront⟩, ht⟩ := exists_endsIn hc
    have hlast : (ofWords [.where] ++ c).tokens = (.word .where :: front) ++ [t] := by
      simp [hfront]
    rw [hlast, List.getLastD_concat]
    exact ht

theorem layout_from (w : Word) (hw : w = .all ∨ w = .countAll) (table : String) (ts : List Token) :
    Token.layout (.word .select :: .word w :: .word .from :: .name (nameParts table) :: ts) =
      "SELECT ".toList ++ (w.text.toList ++ (" FROM ".toList ++ (quotedName table ++
        Token.layoutAfter (.name (nameParts table)) ts))) := by
  have hfront : Token.layoutAfter (.word .select) [.word w, .word .from, .name (nameParts table)] =
      " ".toList ++ (w.text.toList ++ (" FROM ".toList ++ quotedName table)) := by
    rw [Token.layoutAfter_eq_flatMap (by decide) (by rcases hw with rfl | rfl <;> simp)]
    simp only [List.flatMap_cons, List.flatMap_nil, List.append_nil]
    rfl
  have hsplit := Token.layoutAfter_append (.word .select)
    [.word w, .word .from, .name (nameParts table)] ts
  rw [hfront] at hsplit
  rw [Token.layout]
  refine (congrArg ("SELECT".toList ++ ·) hsplit).trans ?_
  simp only [List.append_assoc]
  rfl

theorem layoutAfter_orderedPage {before : Token} (h : before ≠ .word .opening) (q : SelectQuery) :
    Token.layoutAfter before [.word .order, .word .by, .name (nameParts q.orderBy.column),
      .word (directionWord q.orderBy.direction), .word .limit, .number q.limit.toNat, .word .offset,
      .number q.offset.toNat] = orderedPage q := by
  have hdirection : directionWord q.orderBy.direction = .asc ∨
      directionWord q.orderBy.direction = .desc := by
    cases q.orderBy.direction <;> simp [directionWord]
  rw [Token.layoutAfter_eq_flatMap h]
  · simp only [List.flatMap_cons, List.flatMap_nil, List.append_nil]
    rfl
  · rcases hdirection with hd | hd <;> simp [hd]

theorem text_count (hr : restriction filter = .ok r) (h : count table filter = .ok s) :
    s.params = r.params ∧ s.text.toList =
      "SELECT COUNT(*) FROM ".toList ++ (quotedName table ++ clauseText table r) := by
  obtain ⟨-, r', hr', rfl⟩ := count_eq_ok.mp h
  obtain rfl := Except.ok.inj (hr.symm.trans hr')
  refine ⟨by simp, ?_⟩
  rw [text, String.toList_ofList]
  exact layout_from .countAll (.inr rfl) table r.tokens

theorem text_select (hr : restriction q.filter = .ok r) (h : select table q = .ok s) :
    s.params = r.params ∧ s.text.toList =
      "SELECT * FROM ".toList ++ (quotedName table ++ (clauseText table r ++ orderedPage q)) := by
  obtain ⟨-, r', hr', o, ho, rfl⟩ := select_eq_ok.mp h
  obtain rfl := Except.ok.inj (hr.symm.trans hr')
  obtain ⟨-, rfl⟩ := ordering_eq_ok.mp ho
  refine ⟨by simp [window], ?_⟩
  have hlast : r.tokens.getLastD (.name (nameParts table)) ≠ .word .opening :=
    getLastD_restriction hr
  rw [clauseText, ← layoutAfter_orderedPage hlast, ← Token.layoutAfter_append, text,
    String.toList_ofList]
  have htokens : (ofWords [.select, .all, .from] ++ ofTokens [.name (nameParts table)] ++ r ++
      (ofWords [.order, .by] ++ ofTokens [.name (nameParts q.orderBy.column)] ++
        ofWords [directionWord q.orderBy.direction]) ++ window q.limit q.offset).tokens =
      .word .select :: .word .all :: .word .from :: .name (nameParts table) :: (r.tokens ++
        [.word .order, .word .by, .name (nameParts q.orderBy.column),
          .word (directionWord q.orderBy.direction), .word .limit, .number q.limit.toNat,
          .word .offset, .number q.offset.toNat]) := by
    simp [window]
  rw [htokens]
  exact layout_from .all (.inl rfl) table _

/-- A selection and the count of its rows: one text from the table to the order, in which `WHERE`
stands exactly if there is a condition, and one list of parameters. -/
structure SameClause (table : String) (q : SelectQuery) (s t : Statement) : Prop where
  params : s.params = t.params
  text : ∃ clause : List Char,
    s.text.toList =
      "SELECT * FROM ".toList ++ (quotedName table ++ (clause ++ orderedPage q)) ∧
    t.text.toList = "SELECT COUNT(*) FROM ".toList ++ (quotedName table ++ clause) ∧
    (q.filter = none → clause = []) ∧
    (q.filter ≠ none → ∃ after, clause = " WHERE".toList ++ after)

theorem exists_sameClause (h : select table q = .ok s) :
    ∃ t, count table q.filter = .ok t ∧ SameClause table q s t := by
  obtain ⟨htable, r, hr, -⟩ := select_eq_ok.mp h
  obtain ⟨t, ht⟩ : ∃ t, count table q.filter = .ok t := ⟨_, count_eq_ok.mpr ⟨htable, r, hr, rfl⟩⟩
  obtain ⟨hparams, htext⟩ := text_select hr h
  obtain ⟨hparams', htext'⟩ := text_count hr ht
  refine ⟨t, ht, hparams.trans hparams'.symm, clauseText table r, htext, htext', ?_, ?_⟩
  · intro hnone
    rw [hnone] at hr
    exact clauseText_of_none hr
  · intro hsome
    obtain ⟨p, hp⟩ := Option.ne_none_iff_exists'.mp hsome
    rw [hp] at hr
    exact clauseText_of_some hr

/-- A selection fails exactly if its table, a column of its condition or the column of its order is
no name, and it tells the first of these that is none; a count likewise, without an order. Where the
selection does not fail, the count has the same condition and the same parameters. -/
theorem fails_at_first_invalid_name (table : String) :
    (∀ q : SelectQuery,
      ((∃ e, select table q = .error e) ↔
        ∃ name ∈ table :: (columns? q.filter ++ [q.orderBy.column]), ¬ IsName name) ∧
      (∀ e, select table q = .error e ↔ ∃ name,
        IsFirstInvalid (table :: (columns? q.filter ++ [q.orderBy.column])) name ∧
          e = .invalidIdentifier name) ∧
      ∀ s, select table q = .ok s → ∃ t, count table q.filter = .ok t ∧ SameClause table q s t) ∧
    ∀ filter : Option Predicate,
      ((∃ e, count table filter = .error e) ↔ ∃ name ∈ table :: columns? filter, ¬ IsName name) ∧
      ∀ e, count table filter = .error e ↔ ∃ name,
        IsFirstInvalid (table :: columns? filter) name ∧ e = .invalidIdentifier name := by
  refine ⟨fun q => ?_, fun filter => ?_⟩
  · have hselect := checks_select table q
    exact ⟨hselect.fails_iff, fun _ => hselect.eq_error_iff, fun _ => exists_sameClause⟩
  · have hcount := checks_count table filter
    exact ⟨hcount.fails_iff, fun _ => hcount.eq_error_iff⟩

/-- Three columns and the order are no names; the first of them belongs to a list without items. -/
def misnamedQuery : SelectQuery where
  filter := some (.all [.isIn "kind;" [],
    .any [.compare .eq "shop.kind" .null, .not (.like "name\n" "%")], .compare .lt "a.b.c" .null])
  orderBy := ⟨"1st", .asc⟩
  limit := 1
  offset := 0

def wellNamedQuery : SelectQuery :=
  { misnamedQuery with
    filter := some (.any [.isIn "kind;" [], .compare .eq "shop.kind" .null])
    orderBy := ⟨"id", .desc⟩ }

theorem trailing_newline_is_told :
    select "items" misnamedQuery = .error (.invalidIdentifier "name\n") ∧
      count "items" misnamedQuery.filter = .error (.invalidIdentifier "name\n") ∧
      (∃ e, select "1 items" wellNamedQuery = .error e) ∧
      ∃ s t, select "items" wellNamedQuery = .ok s ∧ count "items" wellNamedQuery.filter = .ok t ∧
        SameClause "items" wellNamedQuery s t := by
  obtain ⟨hselect, hcount⟩ := fails_at_first_invalid_name "items"
  have hvalid : ∀ name ∈ ["items", "shop.kind"], IsName name := by
    intro name hname
    simp only [List.mem_cons, List.not_mem_nil, or_false] at hname
    rcases hname with rfl | rfl <;> exact isValidName_iff.mp (by decide +kernel)
  have hnewline : ¬ IsName "name\n" := fun h =>
    absurd (isValidName_iff.mpr h) (by decide +kernel)
  have hdigit : ¬ IsName "1 items" := fun h => absurd (isValidName_iff.mpr h) (by decide +kernel)
  obtain ⟨s, hs⟩ : ∃ s, select "items" wellNamedQuery = .ok s := ⟨_, rfl⟩
  obtain ⟨t, ht, hsame⟩ := (hselect wellNamedQuery).2.2 s hs
  refine ⟨((hselect misnamedQuery).2.1 _).mpr ?_, ((hcount misnamedQuery.filter).2 _).mpr ?_, ?_,
    s, t, hs, ht, hsame⟩
  · exact ⟨_, ⟨["items", "shop.kind"], ["a.b.c", "1st"], rfl, hvalid, hnewline⟩, rfl⟩
  · exact ⟨_, ⟨["items", "shop.kind"], ["a.b.c"], rfl, hvalid, hnewline⟩, rfl⟩
  · exact ((fails_at_first_invalid_name "1 items").1 wellNamedQuery).1.mpr
      ⟨"1 items", List.mem_cons_self, hdigit⟩

end Statement

end Allowlist.Sql
