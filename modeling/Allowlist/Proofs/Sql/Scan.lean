import Allowlist.Proofs.Sql.Reading
import Allowlist.Proofs.Text.Decimal
import Allowlist.Proofs.Text.Split

/-! # The text of tokens is cut into these tokens

Only a space, a closing parenthesis or a comma follows a token in a text, unless the token opens a
parenthesis. None of these goes on with a word, a number or a name, so that each token ends where
its text does. -/

namespace Allowlist.Sql

open Text

/-! ## One token -/

/-- Whether no token goes on into the text. -/
def EndsToken (s : List Char) : Prop := ∀ c ∈ s.head?, c = ' ' ∨ c = ')' ∨ c = ','

namespace EndsToken
variable {s : List Char}

theorem not_digit (h : EndsToken s) : ∀ c ∈ s.head?, isDigit c = false := by
  intro c hc
  rcases h c hc with rfl | rfl | rfl <;> decide

theorem not_alpha (h : EndsToken s) : ∀ c ∈ s.head?, c.isAlpha = false := by
  intro c hc
  rcases h c hc with rfl | rfl | rfl <;> decide

end EndsToken

/-- Whether the token can be read from its text: a name has parts, and no quotes in them. -/
def Token.IsReadable : Token → Prop
  | name parts => parts ≠ [] ∧ ∀ part ∈ parts, '"' ∉ part
  | _ => True

@[simp] theorem Token.isReadable_word (w : Word) : (word w).IsReadable := trivial

@[simp] theorem Token.isReadable_placeholder (n : Nat) : (placeholder n).IsReadable := trivial

@[simp] theorem Token.isReadable_number (n : Nat) : (number n).IsReadable := trivial

variable {rest : List Char}

theorem nameParts?_cons {c : Char} (hc : c ≠ '"') (part rest : List Char) :
    nameParts? part (c :: rest) = nameParts? (part ++ [c]) rest := by
  rw [nameParts?] <;> simp [hc]

theorem nameParts?_append {chars : List Char} (h : '"' ∉ chars) (part rest : List Char) :
    nameParts? part (chars ++ rest) = nameParts? (part ++ chars) rest := by
  induction chars generalizing part with
  | nil => simp
  | cons c chars ih =>
    obtain ⟨hc, hchars⟩ := not_or.mp (mt List.mem_cons.mpr h)
    rw [List.cons_append, nameParts?_cons (Ne.symm hc), ih hchars, List.append_assoc]; rfl

theorem nameParts?_quote (h : EndsToken rest) (part : List Char) :
    nameParts? part ('"' :: rest) = some ([part], rest) := by
  cases rest with
  | nil => rfl
  | cons c rest => rcases h c rfl with rfl | rfl | rfl <;> rfl

theorem text_name_cons_cons (part next : List Char) (parts : List (List Char)) :
    Token.text (.name (part :: next :: parts)) =
      '"' :: part ++ ['"', '.'] ++ Token.text (.name (next :: parts)) := by
  simp [Token.text, Token.quotedPart, List.intercalate_cons_cons]

/-- A name goes to its last quote. -/
theorem nameParts?_text (hrest : EndsToken rest) {parts : List (List Char)} (hne : parts ≠ [])
    (h : ∀ part ∈ parts, '"' ∉ part) :
    ∃ body, Token.text (.name parts) = '"' :: body ∧
      nameParts? [] (body ++ rest) = some (parts, rest) := by
  induction parts with
  | nil => exact absurd rfl hne
  | cons part parts ih =>
    have hpart : '"' ∉ part := h part List.mem_cons_self
    cases parts with
    | nil =>
      refine ⟨part ++ ['"'], by simp [Token.text, Token.quotedPart], ?_⟩
      rw [List.append_assoc, nameParts?_append hpart]
      exact nameParts?_quote hrest _
    | cons next parts =>
      obtain ⟨body, htext, hbody⟩ := ih (by simp) fun q hq => h q (List.mem_cons_of_mem _ hq)
      refine ⟨part ++ ['"', '.', '"'] ++ body, by simp [text_name_cons_cons, htext], ?_⟩
      rw [List.append_assoc, List.append_assoc, nameParts?_append hpart]
      simp [nameParts?, hbody]

theorem lexeme?_name (hrest : EndsToken rest) {parts : List (List Char)}
    (h : Token.IsReadable (.name parts)) :
    lexeme? (Token.text (.name parts) ++ rest) = some (.name parts, rest) := by
  obtain ⟨body, htext, hbody⟩ := nameParts?_text hrest h.1 h.2
  rw [htext, List.cons_append, lexeme?, hbody]; rfl

theorem lexeme?_placeholder (hrest : EndsToken rest) (n : Nat) :
    lexeme? (Token.text (.placeholder n) ++ rest) = some (.placeholder n, rest) := by
  have htake := takeDigits_decimal_append n hrest.not_digit
  rw [Token.text, List.cons_append, lexeme?, htake]
  split
  · next heq => exact absurd (congrArg Prod.fst heq) (digits_decimal_ne_nil n)
  · next heq =>
    obtain ⟨rfl, rfl⟩ := Prod.mk.inj heq
    rw [ofDigits_decimal]

/-- Behind the quotes and the mark of placeholders, what comes next is told by its first digits
and letters. -/
theorem lexeme?_of_head {s : List Char} (h : ∀ c ∈ s.head?, c ≠ '"' ∧ c ≠ '$') :
    lexeme? s =
      if (takeDigits s).1 = [] then
        if s.takeWhile Char.isAlpha = [] then mark? s
        else keyword? (s.takeWhile Char.isAlpha) (s.dropWhile Char.isAlpha)
      else some (.number (ofDigits 10 (takeDigits s).1), (takeDigits s).2) := by
  rw [lexeme?.eq_3 s (fun _ e => (h '"' (by simp [e])).1 rfl) fun _ e => (h '$' (by simp [e])).2 rfl]
  split
  · next heq => simp [heq]
  · next hne heq =>
    rw [heq, if_neg]
    rintro rfl
    exact hne rfl

theorem lexeme?_number (hrest : EndsToken rest) (n : Nat) :
    lexeme? (Token.text (.number n) ++ rest) = some (.number n, rest) := by
  have htake := takeDigits_decimal_append n hrest.not_digit
  have hhead : ∀ c ∈ (decimal n ++ rest).head?, c ≠ '"' ∧ c ≠ '$' := by
    cases hd : decimal n with
    | nil => exact absurd hd (decimal_ne_nil n)
    | cons d ds =>
      have hdigit : isDigit d = true := isDigit_of_mem_decimal (n := n) (by simp [hd])
      intro c hc
      obtain rfl : d = c := Option.some.inj hc
      constructor <;> rintro rfl <;> exact absurd hdigit (by decide)
  rw [Token.text, lexeme?_of_head hhead, htake, if_neg (digits_decimal_ne_nil n), ofDigits_decimal]

theorem not_isDigit_of_isAlpha {c : Char} (h : c.isAlpha = true) : isDigit c = false := by
  have h65 : 65 ≤ c.val.toNat := by
    rcases Bool.or_eq_true_iff.mp h with h | h
    · exact (of_decide_eq_true h).1
    · exact Nat.le_trans (by decide : 65 ≤ 97) (of_decide_eq_true (Bool.and_eq_true_iff.mp h).1)
  unfold isDigit digit?
  rw [if_neg]
  · rfl
  · rintro ⟨-, h9⟩
    have h57 : c.val.toNat ≤ 57 := h9
    omega

theorem takeDigits_of_not_digit {s : List Char} (h : ∀ c ∈ s.head?, isDigit c = false) :
    (takeDigits s).1 = [] := by
  cases s with
  | nil => rfl
  | cons c s => simp [takeDigits, h c rfl]

theorem lexeme?_letters {letters : List Char} (hne : letters ≠ [])
    (hletters : letters.all Char.isAlpha = true) (hrest : ∀ c ∈ rest.head?, c.isAlpha = false) :
    lexeme? (letters ++ rest) = keyword? letters rest := by
  have h := List.all_eq_true.mp hletters
  have hhead : ∀ c ∈ (letters ++ rest).head?, c.isAlpha = true := by
    cases letters with
    | nil => exact absurd rfl hne
    | cons c letters => intro d hd; exact Option.some.inj hd ▸ h c List.mem_cons_self
  have hquote : ∀ c ∈ (letters ++ rest).head?, c ≠ '"' ∧ c ≠ '$' := by
    intro c hc
    constructor <;> rintro rfl <;> exact absurd (hhead _ hc) (by decide)
  rw [lexeme?_of_head hquote, if_pos (takeDigits_of_not_digit fun c hc =>
      not_isDigit_of_isAlpha (hhead c hc)), takeWhile_append_of_all h hrest,
    dropWhile_append_of_all h hrest, if_neg hne]

/-- Each keyword is spelled in letters, and in other letters than the rest. -/
theorem keywords_spelled : ∀ w ∈ keywords,
    w.text.toList ≠ [] ∧ w.text.toList.all Char.isAlpha = true ∧
      w.text.toList ≠ "COUNT".toList ∧
      keywords.find? (fun v => v.text.toList = w.text.toList) = some w := by
  decide +kernel

theorem lexeme?_keyword (hrest : EndsToken rest) {w : Word} (hw : w ∈ keywords) :
    lexeme? (w.text.toList ++ rest) = some (.word w, rest) := by
  obtain ⟨hne, halpha, hcount, hfind⟩ := keywords_spelled w hw
  rw [lexeme?_letters hne halpha hrest.not_alpha]
  unfold keyword?
  rw [if_neg hcount, hfind]; rfl

theorem lexeme?_countAll :
    lexeme? (Word.countAll.text.toList ++ rest) = some (.word .countAll, rest) := by
  have hread : lexeme? ("COUNT".toList ++ '(' :: '*' :: ')' :: rest) =
      keyword? "COUNT".toList ('(' :: '*' :: ')' :: rest) :=
    lexeme?_letters (by decide) (by decide) (by rintro c ⟨⟩; decide)
  exact hread

theorem lexeme?_mark {s : List Char} (h : ∀ c ∈ s.head?, c ∈ ['*', '(', ')', ',', '=', '>', '<']) :
    lexeme? s = mark? s := by
  have hnot : ∀ c ∈ s.head?, (c ≠ '"' ∧ c ≠ '$') ∧ isDigit c = false ∧ c.isAlpha = false := by
    intro c hc
    have hmem := h c hc
    simp only [List.mem_cons, List.not_mem_nil, or_false] at hmem
    rcases hmem with rfl | rfl | rfl | rfl | rfl | rfl | rfl <;> decide
  have halpha : s.takeWhile Char.isAlpha = [] := by
    cases s with
    | nil => rfl
    | cons c s => simp [(hnot c rfl).2.2]
  rw [lexeme?_of_head fun c hc => (hnot c hc).1,
    if_pos (takeDigits_of_not_digit fun c hc => (hnot c hc).2.1), if_pos halpha]

/-- A token is read from the start of its text, whatever ends it. -/
theorem lexeme?_text {t : Token} (ht : t.IsReadable) (h : t = .word .opening ∨ EndsToken rest) :
    lexeme? (t.text ++ rest) = some (t, rest) := by
  rcases h with rfl | h
  · exact lexeme?_mark (by simp [Token.text, Word.text])
  cases t with
  | name parts => exact lexeme?_name h ht
  | placeholder n => exact lexeme?_placeholder h n
  | number n => exact lexeme?_number h n
  | word w =>
    by_cases hw : w ∈ keywords
    · exact lexeme?_keyword h hw
    cases w
    case countAll => exact lexeme?_countAll
    case gt | lt =>
      rw [Token.text, lexeme?_mark (by simp [Word.text])]
      cases rest with
      | nil => rfl
      | cons c rest => rcases h c rfl with rfl | rfl | rfl <;> rfl
    case all | eq | gte | lte | opening | closing | comma =>
      exact lexeme?_mark (by simp [Token.text, Word.text])
    all_goals exact absurd (by decide) hw

/-! ## The whole text -/

theorem scan_space (s : List Char) : scan (' ' :: s) = scan s := by rw [scan]

theorem scan_of_lexeme? {s after : List Char} {t : Token} (h : lexeme? s = some (t, after))
    (hlt : after.length < s.length) : scan s = (scan after).map (t :: ·) := by
  have hspace : ∀ rest, s ≠ ' ' :: rest := by
    rintro rest rfl
    rw [lexeme?_of_head (by simp)] at h
    cases h
  rw [scan.eq_3 s (by rintro rfl; cases hlt) fun rest e => hspace rest e, h]
  exact if_pos hlt

theorem endsToken_layoutAfter {before : Token} (h : before ≠ .word .opening) (ts : List Token) :
    EndsToken (Token.layoutAfter before ts) := by
  cases ts with
  | nil => intro c hc; cases hc
  | cons t rest =>
    rw [Token.layoutAfter]
    split
    · intro c hc; exact .inl (Option.some.inj hc).symm
    · next hspaced =>
      have ht : t = .word .closing ∨ t = .word .comma := by
        simpa [Token.isSpaced, h, Decidable.or_iff_not_imp_left] using hspaced
      rcases ht with rfl | rfl <;> intro c hc
      · exact .inr (.inl (Option.some.inj hc).symm)
      · exact .inr (.inr (Option.some.inj hc).symm)

theorem text_ne_nil {t : Token} (ht : t.IsReadable) : t.text ≠ [] := by
  intro h
  have hread : lexeme? (t.text ++ []) = some (t, []) := lexeme?_text ht (.inr fun c hc => by cases hc)
  rw [h] at hread
  cases hread

theorem scan_layoutAfter (before : Token) {ts : List Token} (h : ∀ t ∈ ts, t.IsReadable) :
    scan (Token.layoutAfter before ts) = some ts := by
  induction ts generalizing before with
  | nil => rw [Token.layoutAfter, scan]
  | cons t rest ih =>
    obtain ⟨ht, hrest⟩ := List.forall_mem_cons.mp h
    have hends : t = .word .opening ∨ EndsToken (Token.layoutAfter t rest) :=
      Decidable.or_iff_not_imp_left.mpr fun hne => endsToken_layoutAfter hne rest
    have hlt : (Token.layoutAfter t rest).length < (t.text ++ Token.layoutAfter t rest).length := by
      have := List.length_pos_iff.mpr (text_ne_nil ht)
      rw [List.length_append]; omega
    have hscan : scan (t.text ++ Token.layoutAfter t rest) = some (t :: rest) := by
      rw [scan_of_lexeme? (lexeme?_text ht hends) hlt, ih t hrest]; rfl
    rw [Token.layoutAfter]
    split
    · rw [List.append_assoc, List.singleton_append, scan_space, hscan]
    · rw [List.nil_append, hscan]

theorem scan_layout {ts : List Token} (h : ∀ t ∈ ts, t.IsReadable) :
    scan (Token.layout ts) = some ts := by
  cases ts with
  | nil => rw [Token.layout, scan]
  | cons t rest =>
    have hscan := scan_layoutAfter (.word .opening) h
    rwa [Token.layoutAfter, Token.isSpaced, if_neg (by simp), List.nil_append] at hscan

/-! ## Names -/

theorem isReadable_name {name : String} (h : isValidName name = true) :
    (Token.name (nameParts name)).IsReadable := by
  refine ⟨splitAt_ne_nil _ _, fun part hpart hquote => ?_⟩
  have hpart : isIdentifier part = true := by
    rw [isValidName, Bool.and_eq_true, List.all_eq_true] at h
    exact h.2 part hpart
  cases part with
  | nil => cases hquote
  | cons c rest =>
    obtain ⟨hc, hrest⟩ := Bool.and_eq_true_iff.mp hpart
    rcases List.mem_cons.mp hquote with rfl | hquote
    · exact absurd hc (by decide)
    · exact absurd (List.all_eq_true.mp hrest _ hquote) (by decide)

theorem ofToken?_name (name : String) :
    Term.ofToken? (.name (nameParts name)) = some (.column name) := by
  rw [Term.ofToken?, nameParts, intercalate_splitAt, String.ofList_toList]

end Allowlist.Sql
