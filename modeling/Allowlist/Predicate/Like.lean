/-! # Patterns

Matching a text against a pattern in which `%` stands for any run of characters and `_` for exactly
one. A search goes through both from the left and notes the last `%` that it came by. Where text and
pattern part it lets that `%` take one character more and goes on behind it. Earlier `%`s are not
tried again: whatever they could skip beyond, the last one skips too. -/

namespace Allowlist.Like

/-- The last `%` that a search came by: its place in the pattern, and the place in the text from
which the pattern behind it was tried last. -/
structure Restart where
  wildcard : Nat
  triedAt : Nat
  deriving DecidableEq, Repr

/-- How far a search has come in the text and in the pattern. -/
structure Search where
  textAt : Nat
  patternAt : Nat
  restart : Option Restart
  deriving DecidableEq, Repr

inductive Next
  | goOn (s : Search)
  | stop (matched : Bool)
  deriving DecidableEq, Repr

namespace Search

def start : Search := ⟨0, 0, none⟩

def advance (s : Search) : Search := { s with textAt := s.textAt + 1, patternAt := s.patternAt + 1 }

/-- Behind a `%`, which takes nothing at first. -/
def passWildcard (s : Search) : Search :=
  ⟨s.textAt, s.patternAt + 1, some ⟨s.patternAt, s.textAt⟩⟩

/-- Back behind the last `%`, which takes one character more. -/
def backTo (r : Restart) : Search :=
  ⟨r.triedAt + 1, r.wildcard + 1, some ⟨r.wildcard, r.triedAt + 1⟩⟩

def retry (s : Search) : Next :=
  match s.restart with
  | some r => .goOn (backTo r)
  | none => .stop false

/-- One step of a search. At the end of the text it is over, and what is left of the pattern has to
match the empty text. -/
def next (text pattern : List Char) (s : Search) : Next :=
  match text[s.textAt]?, pattern[s.patternAt]? with
  | none, _ => .stop ((pattern.drop s.patternAt).all (· = '%'))
  | some _, none => s.retry
  | some c, some p =>
    -- a `%` in the text does not make that of the pattern an ordinary character
    if p = '%' then .goOn s.passWildcard
    else if p = '_' ∨ p = c then .goOn s.advance
    else s.retry

/-- The pattern has nothing to match the character `c` with. -/
def Parts (pattern : List Char) (s : Search) (c : Char) : Prop :=
  ∀ p, pattern[s.patternAt]? = some p → p ≠ '%' ∧ p ≠ '_' ∧ p ≠ c

/-- The places of a search lie within the text and the pattern, a noted `%` before them. -/
structure InBounds (text pattern : List Char) (s : Search) : Prop where
  text_le : s.textAt ≤ text.length
  pattern_le : s.patternAt ≤ pattern.length
  wildcard_lt : ∀ r, s.restart = some r → r.wildcard < s.patternAt
  tried_le : ∀ r, s.restart = some r → r.triedAt ≤ s.textAt

variable {text pattern : List Char} {s s' : Search}

theorem next_cases (text pattern : List Char) (s : Search) :
    (text[s.textAt]? = none ∧
      s.next text pattern = .stop ((pattern.drop s.patternAt).all (· = '%'))) ∨
    ∃ c, text[s.textAt]? = some c ∧
      ((pattern[s.patternAt]? = some '%' ∧ s.next text pattern = .goOn s.passWildcard) ∨
        (∃ p, pattern[s.patternAt]? = some p ∧ p ≠ '%' ∧ (p = '_' ∨ p = c) ∧
          s.next text pattern = .goOn s.advance) ∨
        (s.Parts pattern c ∧ s.next text pattern = s.retry)) := by
  unfold next
  cases text[s.textAt]? with
  | none => exact .inl ⟨rfl, rfl⟩
  | some c =>
    refine .inr ⟨c, rfl, ?_⟩
    cases hp : pattern[s.patternAt]? with
    | none =>
      refine .inr (.inr ⟨fun p h => ?_, rfl⟩)
      rw [hp] at h; cases h
    | some p =>
      by_cases hwild : p = '%'
      · subst hwild; exact .inl ⟨rfl, rfl⟩
      · simp only [if_neg hwild]
        by_cases hfits : p = '_' ∨ p = c
        · exact .inr (.inl ⟨p, rfl, hwild, hfits, if_pos hfits⟩)
        · refine .inr (.inr ⟨fun p' h => ?_, if_neg hfits⟩)
          rw [hp] at h; cases h
          exact ⟨hwild, fun e => hfits (.inl e), fun e => hfits (.inr e)⟩

theorem retry_eq_goOn : s.retry = .goOn s' ↔ ∃ r, s.restart = some r ∧ s' = backTo r := by
  unfold retry
  cases s.restart <;> simp [eq_comm]

theorem retry_eq_stop {matched : Bool} :
    s.retry = .stop matched ↔ s.restart = none ∧ matched = false := by
  unfold retry
  cases s.restart <;> simp [eq_comm]

/-- The search passes a `%`, or a character that fits, or it goes back to the last `%`. -/
theorem next_eq_goOn (h : s.next text pattern = .goOn s') : ∃ c, text[s.textAt]? = some c ∧
    ((pattern[s.patternAt]? = some '%' ∧ s' = s.passWildcard) ∨
      (∃ p, pattern[s.patternAt]? = some p ∧ p ≠ '%' ∧ (p = '_' ∨ p = c) ∧ s' = s.advance) ∨
      (s.Parts pattern c ∧ ∃ r, s.restart = some r ∧ s' = backTo r)) := by
  rcases next_cases text pattern s with
    ⟨-, hn⟩ | ⟨c, hc, ⟨hp, hn⟩ | ⟨p, hp, hwild, hfits, hn⟩ | ⟨hparts, hn⟩⟩
  · rw [hn] at h; cases h
  · rw [hn] at h; cases h
    exact ⟨c, hc, .inl ⟨hp, rfl⟩⟩
  · rw [hn] at h; cases h
    exact ⟨c, hc, .inr (.inl ⟨p, hp, hwild, hfits, rfl⟩)⟩
  · rw [hn] at h
    exact ⟨c, hc, .inr (.inr ⟨hparts, retry_eq_goOn.mp h⟩)⟩

/-- The search is over at the end of the text, or where text and pattern part without a `%` to go
back to. -/
theorem next_eq_stop {matched : Bool} (h : s.next text pattern = .stop matched) :
    (text[s.textAt]? = none ∧ matched = (pattern.drop s.patternAt).all (· = '%')) ∨
      ∃ c, text[s.textAt]? = some c ∧ s.Parts pattern c ∧ s.restart = none ∧ matched = false := by
  rcases next_cases text pattern s with
    ⟨hend, hn⟩ | ⟨c, hc, ⟨-, hn⟩ | ⟨_, -, -, -, hn⟩ | ⟨hparts, hn⟩⟩
  · rw [hn] at h; cases h
    exact .inl ⟨hend, rfl⟩
  · rw [hn] at h; cases h
  · rw [hn] at h; cases h
  · rw [hn] at h
    exact .inr ⟨c, hc, hparts, retry_eq_stop.mp h⟩

theorem lt_length {α : Type} {items : List α} {i : Nat} {a : α} (h : items[i]? = some a) :
    i < items.length :=
  (List.getElem?_eq_some_iff.mp h).1

theorem inBounds_start : InBounds text pattern start where
  text_le := Nat.zero_le _
  pattern_le := Nat.zero_le _
  wildcard_lt := nofun
  tried_le := nofun

/-- A step stays within the text and the pattern. -/
theorem InBounds.next (hs : InBounds text pattern s) (h : s.next text pattern = .goOn s') :
    InBounds text pattern s' := by
  obtain ⟨c, hc, ⟨hp, rfl⟩ | ⟨p, hp, -, -, rfl⟩ | ⟨-, r, hr, rfl⟩⟩ := next_eq_goOn h
  · have hlt := lt_length hp
    exact ⟨hs.text_le, hlt, fun r hr => by cases hr; exact Nat.lt_succ_self _,
      fun r hr => by cases hr; exact Nat.le_refl _⟩
  · have ht := lt_length hc
    have hlt := lt_length hp
    exact ⟨ht, hlt, fun r hr => Nat.lt_succ_of_lt (hs.wildcard_lt r hr),
      fun r hr => Nat.le_succ_of_le (hs.tried_le r hr)⟩
  · have ht := lt_length hc
    have htried := hs.tried_le r hr
    have hwild := hs.wildcard_lt r hr
    have hle := hs.pattern_le
    refine ⟨?_, ?_, fun r' hr' => by cases hr'; exact Nat.lt_succ_self _,
      fun r' hr' => by cases hr'; exact Nat.le_refl _⟩
    · show r.triedAt + 1 ≤ _; omega
    · show r.wildcard + 1 ≤ _; omega

/-- What is left of the pattern behind the last `%`, of the text behind where that was tried, and of
the pattern behind the search. -/
def remaining (text pattern : List Char) (s : Search) : Nat × Nat × Nat :=
  match s.restart with
  | some r => (pattern.length - (r.wildcard + 1), text.length - r.triedAt, pattern.length - s.patternAt)
  | none => (pattern.length, text.length, pattern.length - s.patternAt)

/-- A step leaves less, though it may go back in both: behind a `%` for good, behind a character of
the text for as long as that `%` is the last one. -/
theorem InBounds.remaining_lt (hs : InBounds text pattern s) (h : s.next text pattern = .goOn s') :
    Prod.Lex (· < ·) (Prod.Lex (· < ·) (· < ·)) (s'.remaining text pattern)
      (s.remaining text pattern) := by
  obtain ⟨textAt, patternAt, restart⟩ := s
  obtain ⟨c, hc, ⟨hp, rfl⟩ | ⟨p, hp, -, -, rfl⟩ | ⟨-, r, hr, rfl⟩⟩ := next_eq_goOn h
  · have hlt : patternAt < pattern.length := lt_length hp
    refine .left _ _ ?_
    cases restart with
    | none => show pattern.length - (patternAt + 1) < pattern.length; omega
    | some r =>
      have hwild : r.wildcard < patternAt := hs.wildcard_lt r rfl
      show pattern.length - (patternAt + 1) < pattern.length - (r.wildcard + 1); omega
  · have hlt : patternAt < pattern.length := lt_length hp
    have hless : pattern.length - (patternAt + 1) < pattern.length - patternAt := by omega
    cases restart with
    | none => exact .right _ (.right _ hless)
    | some r => exact .right _ (.right _ hless)
  · have hlt : textAt < text.length := lt_length hc
    have htried : r.triedAt ≤ textAt := hs.tried_le r hr
    subst hr
    refine .right _ (.left _ _ ?_)
    show text.length - (r.triedAt + 1) < text.length - r.triedAt; omega

end Search

/-- Whether a search that has come this far ends in a match. -/
def run (text pattern : List Char) (s : Search) (hs : s.InBounds text pattern) : Bool :=
  match h : s.next text pattern with
  | .goOn s' => run text pattern s' (hs.next h)
  | .stop matched => matched
termination_by s.remaining text pattern
decreasing_by exact hs.remaining_lt h

/-- Whether the pattern matches the whole text. -/
def isMatch (text pattern : List Char) : Bool :=
  run text pattern .start Search.inBounds_start

end Allowlist.Like
