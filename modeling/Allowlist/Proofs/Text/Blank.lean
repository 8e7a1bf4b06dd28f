import Allowlist.Proofs.Text.Decimal
import Allowlist.Text.Blank

/-! # Texts without blanks

No visible character of ASCII is blank, and trimming leaves a text without blanks as it is. -/

namespace Allowlist.Text

theorem not_isBlank_of_visible {c : Char} (h : '!' ≤ c ∧ c ≤ '~') : isBlank c = false := by
  have hlo : 0x21 ≤ c.toNat := h.1
  have hhi : c.toNat ≤ 0x7E := h.2
  simp only [isBlank]
  simp; omega

theorem not_isBlank_of_isDigit {c : Char} (h : isDigit c = true) : isBlank c = false := by
  obtain ⟨hlo, hhi⟩ := isDigit_iff.mp h
  exact not_isBlank_of_visible ⟨Char.le_trans (by decide) hlo, Char.le_trans hhi (by decide)⟩

theorem trimStart_of_no_blank {s : List Char} (h : ∀ c ∈ s, isBlank c = false) : trimStart s = s :=
  dropWhile_of_head? fun c hc => h c (List.mem_of_mem_head? hc)

theorem trim_of_no_blank {s : List Char} (h : ∀ c ∈ s, isBlank c = false) : trim s = s := by
  have hreverse : ∀ c ∈ s.reverse, isBlank c = false := fun c hc => h c (List.mem_reverse.mp hc)
  have hend : s.reverse.dropWhile isBlank = s.reverse := trimStart_of_no_blank hreverse
  rw [trim, trimStart_of_no_blank h, trimEnd, hend, List.reverse_reverse]

end Allowlist.Text
