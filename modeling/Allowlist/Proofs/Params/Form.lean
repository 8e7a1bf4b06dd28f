import Allowlist.Params.Form
import Allowlist.Proofs.Text.Split
import Allowlist.Proofs.Text.Utf8

/-! # What a question mark does to form-encoded pairs

A question mark is no delimiter of the encoding and stands for itself. In front of a query it is
therefore the first character of the first name, and leaving it out always gives other pairs. -/

namespace Allowlist.Form

open Text

theorem percentDecode_cons_of_ne {b : UInt8} (h : b ≠ octet '%') (rest : List UInt8) :
    percentDecode (b :: rest) = b :: percentDecode rest := by
  match rest with
  | [] => simp [percentDecode]
  | [_] => simp [percentDecode, h]
  | _ :: _ :: _ => rw [percentDecode, if_neg h]

theorem decodePart_mark (octets : List UInt8) :
    decodePart (octet '?' :: octets) = "?" ++ decodePart octets := by
  have hplus : plusToSpace (octet '?') = octet '?' := by decide
  rw [decodePart, List.map_cons, hplus, percentDecode_cons_of_ne (by decide),
    decodeUtf8_cons_of_lt (by decide)]
  show String.ofList (['?'] ++ _) = _
  rw [String.ofList_append]; rfl

theorem decodePair_mark (octets : List UInt8) : decodePair (octet '?' :: octets) =
    ("?" ++ (decodePair octets).1, (decodePair octets).2) := by
  have hcut : cutAt (octet '=') (octet '?' :: octets) =
      (octet '?' :: (cutAt (octet '=') octets).1, (cutAt (octet '=') octets).2) := by
    rw [cutAt_cons, if_neg (by decide)]
  simp only [decodePair, hcut, decodePart_mark]

theorem decode_mark (s : List Char) : ∃ piece pieces,
    splitAt (octet '&') (encodeUtf8 s) = piece :: pieces ∧
      decode ('?' :: s) = ("?" ++ (decodePair piece).1, (decodePair piece).2) ::
        (pieces.filter (· ≠ [])).map decodePair := by
  obtain ⟨piece, pieces, hsplit⟩ :=
    List.exists_cons_of_ne_nil (splitAt_ne_nil (octet '&') (encodeUtf8 s))
  refine ⟨piece, pieces, hsplit, ?_⟩
  have hencode : encodeUtf8 ('?' :: s) = octet '?' :: encodeUtf8 s := rfl
  rw [decode, hencode, splitAt_cons_of_ne (by decide), hsplit, consFirst,
    List.filter_cons_of_pos (by simp), List.map_cons, decodePair_mark]

/-- Without the question mark the pairs are never the same. -/
theorem decode_mark_ne (s : List Char) : decode ('?' :: s) ≠ decode s := by
  obtain ⟨piece, pieces, hsplit, hmark⟩ := decode_mark s
  intro heq
  rw [hmark, decode, hsplit] at heq
  by_cases hpiece : piece = []
  · -- the mark makes a pair of a piece that is passed over without it
    have hlength := congrArg List.length heq
    simp [hpiece] at hlength
  · rw [List.filter_cons_of_pos (by simpa using hpiece), List.map_cons] at heq
    have hname := congrArg (fun pair => String.length pair.1) (List.cons.inj heq).1
    simp [String.length_append] at hname

end Allowlist.Form
