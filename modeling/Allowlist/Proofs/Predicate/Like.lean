import Allowlist.Predicate.Like
import Mathlib.Data.List.Forall2
import Mathlib.Logic.Relation

/-! # What a pattern matches

A pattern matches the texts that can be cut into pieces, one for each of its characters. A search
keeps only the last `%` to go back to. That is enough: the pattern from there to where the search
stands has no `%` and so takes a piece of fixed length, and a match in which the last `%` takes more
comes to this place of the pattern further behind in the text. A `%` there, or the end of the text,
comes by it as well. -/

namespace Allowlist.Like

/-- Which pieces of a text a character of a pattern takes. -/
inductive Takes : Char → List Char → Prop
  | run (piece : List Char) : Takes '%' piece
  | single (c : Char) : Takes '_' [c]
  | itself {p : Char} (not_run : p ≠ '%') (not_single : p ≠ '_') : Takes p [p]

/-- The text can be cut into consecutive pieces that the characters of the pattern take in order. -/
def Splits (text pattern : List Char) : Prop :=
  ∃ pieces : List (List Char), pieces.flatten = text ∧ List.Forall₂ Takes pattern pieces

section
variable {text rest seg : List Char} {p c : Char}

theorem takes_iff {piece : List Char} (hp : p ≠ '%') :
    Takes p piece ↔ ∃ c, piece = [c] ∧ (p = '_' ∨ p = c) := by
  constructor
  · intro h
    cases h with
    | run => exact absurd rfl hp
    | single c => exact ⟨c, rfl, .inl rfl⟩
    | itself => exact ⟨p, rfl, .inr rfl⟩
  · rintro ⟨c, rfl, h⟩
    by_cases hs : p = '_'
    · subst hs; exact .single c
    · obtain rfl := h.resolve_left hs
      exact .itself hp hs

theorem splits_nil : Splits text [] ↔ text = [] := by
  constructor
  · rintro ⟨pieces, rfl, h⟩
    cases h; rfl
  · rintro rfl
    exact ⟨[], rfl, .nil⟩

theorem splits_cons : Splits text (p :: rest) ↔
    ∃ piece tail, text = piece ++ tail ∧ Takes p piece ∧ Splits tail rest := by
  constructor
  · rintro ⟨pieces, rfl, h⟩
    cases h with
    | cons hp hrest => exact ⟨_, _, rfl, hp, _, rfl, hrest⟩
  · rintro ⟨piece, tail, rfl, hp, pieces, rfl, hrest⟩
    exact ⟨piece :: pieces, rfl, .cons hp hrest⟩

theorem splits_run : Splits text ('%' :: rest) ↔ ∃ k, Splits (text.drop k) rest := by
  rw [splits_cons]
  constructor
  · rintro ⟨piece, tail, rfl, -, h⟩
    exact ⟨piece.length, by rwa [List.drop_left]⟩
  · rintro ⟨k, h⟩
    exact ⟨text.take k, text.drop k, (List.take_append_drop k text).symm, .run _, h⟩

theorem splits_character (hp : p ≠ '%') : Splits text (p :: rest) ↔
    ∃ c tail, text = c :: tail ∧ (p = '_' ∨ p = c) ∧ Splits tail rest := by
  rw [splits_cons]
  constructor
  · rintro ⟨piece, tail, rfl, htakes, h⟩
    obtain ⟨c, rfl, hfits⟩ := (takes_iff hp).mp htakes
    exact ⟨c, tail, rfl, hfits, h⟩
  · rintro ⟨c, tail, rfl, hfits, h⟩
    exact ⟨[c], tail, rfl, (takes_iff hp).mpr ⟨c, rfl, hfits⟩, h⟩

theorem splits_nil_left : ∀ pattern : List Char, Splits [] pattern ↔ ∀ p ∈ pattern, p = '%'
  | [] => by simp [splits_nil]
  | p :: rest => by
    rw [List.forall_mem_cons, ← splits_nil_left rest]
    by_cases hp : p = '%'
    · subst hp; simp [splits_run]
    · simp [splits_character hp, hp]

theorem Splits.skip (h : Splits text (seg ++ rest)) (hseg : '%' ∉ seg) :
    Splits (text.drop seg.length) rest := by
  induction seg generalizing text with
  | nil => exact h
  | cons p seg ih =>
    rw [List.mem_cons, not_or] at hseg
    obtain ⟨c, tail, rfl, -, htail⟩ := (splits_character (Ne.symm hseg.1)).mp h
    exact ih htail hseg.2

end

namespace Search
variable {text pattern : List Char} {s s' : Search}

def Step (text pattern : List Char) (s s' : Search) : Prop := s.next text pattern = .goOn s'

/-- What a search that has noted a `%` has come by since: a part of the pattern without `%` and as
many characters of the text. -/
def Aligned (pattern : List Char) (s : Search) : Prop :=
  ∀ r, s.restart = some r → ∃ seg, '%' ∉ seg ∧
    pattern.drop (r.wildcard + 1) = seg ++ pattern.drop s.patternAt ∧
    s.textAt = r.triedAt + seg.length

/-- What can still be found: a match from here on, or one in which the last `%` takes more. -/
def Open (text pattern : List Char) (s : Search) : Prop :=
  Splits (text.drop s.textAt) (pattern.drop s.patternAt) ∨
    ∃ r, s.restart = some r ∧
      ∃ k, r.triedAt < k ∧ Splits (text.drop k) (pattern.drop (r.wildcard + 1))

theorem drop_eq_cons {α : Type} {items : List α} {i : Nat} {a : α} (h : items[i]? = some a) :
    items.drop i = a :: items.drop (i + 1) := by
  obtain ⟨hlt, rfl⟩ := List.getElem?_eq_some_iff.mp h
  exact List.drop_eq_getElem_cons hlt

theorem aligned_start : Aligned pattern start := nofun

/-- Each step leaves only characters without `%` behind the last `%`. -/
theorem Aligned.step (hs : s.Aligned pattern) (h : Step text pattern s s') : s'.Aligned pattern := by
  obtain ⟨c, -, ⟨-, rfl⟩ | ⟨p, hp, hne, -, rfl⟩ | ⟨-, r, -, rfl⟩⟩ := next_eq_goOn h
  · intro r hr
    cases hr
    exact ⟨[], List.not_mem_nil, rfl, rfl⟩
  · intro r hr
    obtain ⟨seg, hseg, hdrop, hat⟩ := hs r hr
    refine ⟨seg ++ [p], ?_, ?_, ?_⟩
    · simp [hseg, Ne.symm hne]
    · rw [hdrop, drop_eq_cons hp, List.append_assoc]; rfl
    · simp only [advance, hat, List.length_append, List.length_singleton, Nat.add_assoc]
  · intro r' hr'
    cases hr'
    exact ⟨[], List.not_mem_nil, rfl, rfl⟩

/-- Where the last `%` takes more, what the search still has to match stands further behind. -/
theorem Aligned.splits_of_retry (hs : s.Aligned pattern) {r : Restart} (hr : s.restart = some r)
    {k : Nat} (hk : r.triedAt < k) (h : Splits (text.drop k) (pattern.drop (r.wildcard + 1))) :
    ∃ m, s.textAt < m ∧ Splits (text.drop m) (pattern.drop s.patternAt) := by
  obtain ⟨seg, hseg, hdrop, hat⟩ := hs r hr
  rw [hdrop] at h
  have hskip := h.skip hseg
  rw [List.drop_drop] at hskip
  exact ⟨k + seg.length, by omega, hskip⟩

theorem not_splits_of_parts {c : Char} (hc : text[s.textAt]? = some c) (hp : s.Parts pattern c) :
    ¬ Splits (text.drop s.textAt) (pattern.drop s.patternAt) := by
  rw [drop_eq_cons hc]
  cases hat : pattern[s.patternAt]? with
  | none =>
    rw [List.drop_eq_nil_of_le (List.getElem?_eq_none_iff.mp hat), splits_nil]
    exact List.cons_ne_nil _ _
  | some p =>
    obtain ⟨hrun, hsingle, hne⟩ := hp p hat
    rw [drop_eq_cons hat, splits_character hrun]
    rintro ⟨c', tail, htext, hfits, -⟩
    cases htext
    exact hfits.elim hsingle hne

theorem splits_drop_run (hp : pattern[s.patternAt]? = some '%') (m : Nat) :
    Splits (text.drop m) (pattern.drop s.patternAt) ↔
      ∃ k, m ≤ k ∧ Splits (text.drop k) (pattern.drop (s.patternAt + 1)) := by
  rw [drop_eq_cons hp, splits_run]
  constructor
  · rintro ⟨k, h⟩
    rw [List.drop_drop] at h
    exact ⟨m + k, Nat.le_add_right m k, h⟩
  · rintro ⟨k, hk, h⟩
    exact ⟨k - m, by rwa [List.drop_drop, Nat.add_sub_cancel' hk]⟩

/-- Right behind a `%` everything is open that this `%` can come to. -/
theorem open_behind (r : Restart) : Open text pattern ⟨r.triedAt, r.wildcard + 1, some r⟩ ↔
    ∃ k, r.triedAt ≤ k ∧ Splits (text.drop k) (pattern.drop (r.wildcard + 1)) := by
  constructor
  · rintro (h | ⟨r', hr', k, hk, h⟩)
    · exact ⟨r.triedAt, Nat.le_refl _, h⟩
    · cases hr'
      exact ⟨k, Nat.le_of_lt hk, h⟩
  · rintro ⟨k, hk, h⟩
    rcases Nat.eq_or_lt_of_le hk with rfl | hk
    · exact .inl h
    · exact .inr ⟨r, rfl, k, hk, h⟩

/-- A further `%` comes to all that an earlier one still could. -/
theorem open_passWildcard (hs : s.Aligned pattern) (hp : pattern[s.patternAt]? = some '%') :
    s.passWildcard.Open text pattern ↔ s.Open text pattern := by
  refine (open_behind ⟨s.patternAt, s.textAt⟩).trans ?_
  constructor
  · intro h
    exact .inl ((splits_drop_run hp s.textAt).mpr h)
  · rintro (h | ⟨r, hr, k, hk, h⟩)
    · exact (splits_drop_run hp s.textAt).mp h
    · obtain ⟨m, hm, h⟩ := hs.splits_of_retry hr hk h
      obtain ⟨k, hmk, h⟩ := (splits_drop_run hp m).mp h
      exact ⟨k, Nat.le_trans (Nat.le_of_lt hm) hmk, h⟩

theorem open_advance {c p : Char} (hc : text[s.textAt]? = some c)
    (hp : pattern[s.patternAt]? = some p) (hne : p ≠ '%') (hfits : p = '_' ∨ p = c) :
    s.advance.Open text pattern ↔ s.Open text pattern := by
  have hfront : Splits (text.drop s.textAt) (pattern.drop s.patternAt) ↔
      Splits (text.drop (s.textAt + 1)) (pattern.drop (s.patternAt + 1)) := by
    rw [drop_eq_cons hc, drop_eq_cons hp, splits_character hne]
    constructor
    · rintro ⟨c', tail, htext, -, h⟩
      cases htext; exact h
    · exact fun h => ⟨c, _, rfl, hfits, h⟩
  exact or_congr_left hfront.symm

theorem open_backTo {c : Char} {r : Restart} (hc : text[s.textAt]? = some c)
    (hparts : s.Parts pattern c) (hr : s.restart = some r) :
    (backTo r).Open text pattern ↔ s.Open text pattern := by
  refine (open_behind ⟨r.wildcard, r.triedAt + 1⟩).trans ?_
  constructor
  · rintro ⟨k, hk, h⟩
    exact .inr ⟨r, hr, k, hk, h⟩
  · rintro (h | ⟨r', hr', k, hk, h⟩)
    · exact absurd h (not_splits_of_parts hc hparts)
    · cases hr.symm.trans hr'
      exact ⟨k, hk, h⟩

/-- No step gives away what can be found, and none promises what cannot. -/
theorem Step.open_iff (h : Step text pattern s s') (hs : s.Aligned pattern) :
    s'.Open text pattern ↔ s.Open text pattern := by
  obtain ⟨c, hc, ⟨hp, rfl⟩ | ⟨p, hp, hne, hfits, rfl⟩ | ⟨hparts, r, hr, rfl⟩⟩ := next_eq_goOn h
  · exact open_passWildcard hs hp
  · exact open_advance hc hp hne hfits
  · exact open_backTo hc hparts hr

theorem open_iff_of_stop {matched : Bool} (h : s.next text pattern = .stop matched)
    (hs : s.Aligned pattern) : s.Open text pattern ↔ matched = true := by
  rcases next_eq_stop h with ⟨hend, rfl⟩ | ⟨c, hc, hparts, hnone, rfl⟩
  · have hle := List.getElem?_eq_none_iff.mp hend
    have hall : Splits [] (pattern.drop s.patternAt) ↔
        (pattern.drop s.patternAt).all (· = '%') = true := by
      simp [splits_nil_left, List.all_eq_true]
    rw [← hall]
    constructor
    · rintro (h | ⟨r, hr, k, hk, h⟩)
      · rwa [List.drop_eq_nil_of_le hle] at h
      · obtain ⟨m, hm, h⟩ := hs.splits_of_retry hr hk h
        rwa [List.drop_eq_nil_of_le (by omega)] at h
    · intro h
      exact .inl (by rwa [List.drop_eq_nil_of_le hle])
  · constructor
    · rintro (h | ⟨r, hr, -⟩)
      · exact absurd h (not_splits_of_parts hc hparts)
      · rw [hnone] at hr; cases hr
    · exact nofun

theorem inBounds_of_run (hrun : Relation.ReflTransGen (Step text pattern) start s) :
    s.InBounds text pattern := by
  induction hrun with
  | refl => exact inBounds_start
  | tail _ step ih => exact ih.next step

end Search

open Search

/-- A search comes to an end, and with the answer that it had to begin with. -/
theorem exists_last {text pattern : List Char} (s : Search) (hs : s.InBounds text pattern) :
    ∃ last, Relation.ReflTransGen (Step text pattern) s last ∧
      last.next text pattern = .stop (run text pattern s hs) := by
  fun_induction run text pattern s hs with
  | case1 s hs s' h ih =>
    obtain ⟨last, hrun, hlast⟩ := ih
    exact ⟨last, .head h hrun, hlast⟩
  | case2 s hs matched h => exact ⟨s, .refl, h⟩

theorem run_iff_open {text pattern : List Char} (s : Search) (hs : s.InBounds text pattern)
    (ha : s.Aligned pattern) : run text pattern s hs = true ↔ s.Open text pattern := by
  fun_induction run text pattern s hs with
  | case1 s hs s' h ih => exact (ih (ha.step h)).trans (Step.open_iff h ha)
  | case2 s hs matched h => exact (open_iff_of_stop h ha).symm

theorem isMatch_iff_splits (text pattern : List Char) :
    isMatch text pattern = true ↔ Splits text pattern := by
  refine (run_iff_open start inBounds_start aligned_start).trans ?_
  constructor
  · rintro (h | ⟨r, hr, -⟩)
    · exact h
    · cases hr
  · exact .inl

/-- The search goes back in the text and in the pattern, but it comes to an end, never leaves either,
and finds exactly the texts that can be cut into pieces for the characters of the pattern. -/
theorem search_decides (text pattern : List Char) :
    (∃ last, Relation.ReflTransGen (Step text pattern) .start last ∧
      last.next text pattern = .stop (isMatch text pattern)) ∧
    (∀ s, Relation.ReflTransGen (Step text pattern) .start s →
      s.textAt ≤ text.length ∧ s.patternAt ≤ pattern.length ∧
        ∀ r, s.restart = some r → r.triedAt ≤ text.length ∧ r.wildcard < pattern.length) ∧
    (isMatch text pattern = true ↔
      ∃ pieces : List (List Char), pieces.flatten = text ∧ List.Forall₂ Takes pattern pieces) := by
  refine ⟨exists_last _ _, fun s hrun => ?_, isMatch_iff_splits text pattern⟩
  have hs := inBounds_of_run hrun
  refine ⟨hs.text_le, hs.pattern_le, fun r hr => ⟨?_, ?_⟩⟩
  · exact Nat.le_trans (hs.tried_le r hr) hs.text_le
  · exact Nat.lt_of_lt_of_le (hs.wildcard_lt r hr) hs.pattern_le

end Allowlist.Like
