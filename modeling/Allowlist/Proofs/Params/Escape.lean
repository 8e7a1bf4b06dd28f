import Allowlist.Proofs.OrderedMap
import Allowlist.Proofs.Params.Sources
import Allowlist.Proofs.Text.Hexadecimal
import Allowlist.Proofs.Text.Utf8
import Mathlib.Data.List.Forall2

/-! # Escaped pairs come back

An escape is a percent sign and two hexadecimal digits, none of which means anything else to the
decoder. Where names and values are escaped octet by octet, the only `&` and `=` are those that join
them. So the text is cut where it was joined, and every escape is read as the octet that it was
written for. -/

namespace Allowlist

open Text

namespace Form

/-- A hexadecimal digit of either case and its value. -/
def IsHexDigit (c : Char) (d : Nat) : Prop := d < 16 ∧ (c = d.digitChar ∨ c = d.digitChar.toUpper)

/-- A text is made of one escape for each of the octets. -/
inductive Escapes : List UInt8 → List Char → Prop
  | nil : Escapes [] []
  | cons {b : UInt8} {octets : List UInt8} {high low : Char} {h l : Nat} {s : List Char}
    (hhigh : IsHexDigit high h) (hlow : IsHexDigit low l) (hb : b.toNat = 16 * h + l)
    (hrest : Escapes octets s) : Escapes (b :: octets) ('%' :: high :: low :: s)

/-- A text is the name and the value of a pair, both escaped, with an equals sign between them. -/
def IsPair (pair : String × String) (s : List Char) : Prop :=
  ∃ name value, Escapes pair.1.toUTF8.data.toList name ∧
    Escapes pair.2.toUTF8.data.toList value ∧ s = name ++ '=' :: value

/-- A text is a list of pairs, joined with `&`. -/
def IsQuery (pairs : List (String × String)) (s : List Char) : Prop :=
  ∃ pieces, List.Forall₂ IsPair pairs pieces ∧ s = ['&'].intercalate pieces

/-! ### Characters of escapes -/

/-- An ASCII character that neither delimits anything nor stands for another one. -/
structure IsInert (c : Char) : Prop where
  ascii : c.toNat < 0x80
  ne_ampersand : c ≠ '&'
  ne_equals : c ≠ '='
  ne_plus : c ≠ '+'

variable {c : Char} {d : Nat} {s : List Char} {octets : List UInt8}

theorem IsHexDigit.value (h : IsHexDigit c d) : hexDigit? c = some d := by
  have hupper : ∀ d < 16, hexDigit? d.digitChar.toUpper = some d := by decide
  obtain ⟨hd, rfl | rfl⟩ := h
  · rw [← digitChar_eq hd, hexDigit?_digitChar hd]
  · exact hupper d hd

theorem isInert_of_hexDigit? (h : hexDigit? c = some d) : IsInert c := by
  have hrange : 48 ≤ c.toNat ∧ c.toNat ≤ 57 ∨ 97 ≤ c.toNat ∧ c.toNat ≤ 102 ∨
      65 ≤ c.toNat ∧ c.toNat ≤ 70 := by
    unfold hexDigit? at h
    split at h
    · next hc => exact .inl hc
    split at h
    · next hc => exact .inr (.inl hc)
    split at h
    · next hc => exact .inr (.inr hc)
    · cases h
  refine ⟨by omega, ?_, ?_, ?_⟩ <;> rintro rfl <;> exact absurd hrange (by decide)

theorem IsHexDigit.isInert (h : IsHexDigit c d) : IsInert c := isInert_of_hexDigit? h.value

theorem Escapes.isInert (h : Escapes octets s) : ∀ c ∈ s, IsInert c := by
  induction h with
  | nil => exact fun c hc => absurd hc List.not_mem_nil
  | cons hhigh hlow _ _ ih =>
    have hpercent : IsInert '%' := ⟨by decide, by decide, by decide, by decide⟩
    intro c hc
    rcases List.mem_cons.mp hc with rfl | hc
    · exact hpercent
    rcases List.mem_cons.mp hc with rfl | hc
    · exact hhigh.isInert
    rcases List.mem_cons.mp hc with rfl | hc
    · exact hlow.isInert
    · exact ih c hc

/-! ### Octets of escapes -/

theorem ofNat_octet (h : c.toNat < 0x80) : Char.ofNat (octet c).toNat = c := by
  rw [octet, toNat_toUInt8 (by omega), Char.ofNat_toNat]

theorem octet_ne {x : Char} (hc : c.toNat < 0x80) (hx : x.toNat < 0x80) (h : c ≠ x) :
    octet c ≠ octet x := by
  intro heq
  have hnat : Char.ofNat (octet c).toNat = Char.ofNat (octet x).toNat := by rw [heq]
  rw [ofNat_octet hc, ofNat_octet hx] at hnat
  exact h hnat

theorem encodeUtf8_cons (h : c.toNat < 0x80) (s : List Char) :
    encodeUtf8 (c :: s) = octet c :: encodeUtf8 s := by
  have hc : encodeChar c = [octet c] := if_pos h
  rw [encodeUtf8, List.flatMap_cons, hc, List.singleton_append, encodeUtf8]

theorem octet_not_mem {x : Char} (hx : x.toNat < 0x80) (h : ∀ c ∈ s, c.toNat < 0x80 ∧ c ≠ x) :
    octet x ∉ encodeUtf8 s := by
  induction s with
  | nil => exact List.not_mem_nil
  | cons c s ih =>
    obtain ⟨⟨hascii, hne⟩, hs⟩ := List.forall_mem_cons.mp h
    rw [encodeUtf8_cons hascii, List.mem_cons, not_or]
    exact ⟨octet_ne hx hascii hne.symm, ih hs⟩

namespace Escapes

theorem ampersand_not_mem (h : Escapes octets s) : octet '&' ∉ encodeUtf8 s :=
  octet_not_mem (by decide) fun c hc => ⟨(h.isInert c hc).ascii, (h.isInert c hc).ne_ampersand⟩

theorem equals_not_mem (h : Escapes octets s) : octet '=' ∉ encodeUtf8 s :=
  octet_not_mem (by decide) fun c hc => ⟨(h.isInert c hc).ascii, (h.isInert c hc).ne_equals⟩

theorem map_plusToSpace (h : Escapes octets s) :
    (encodeUtf8 s).map plusToSpace = encodeUtf8 s := by
  have hplus : octet '+' ∉ encodeUtf8 s :=
    octet_not_mem (by decide) fun c hc => ⟨(h.isInert c hc).ascii, (h.isInert c hc).ne_plus⟩
  refine (List.map_congr_left fun b hb => if_neg ?_).trans (List.map_id _)
  rintro rfl
  exact hplus hb

theorem percentDecode_eq (h : Escapes octets s) : percentDecode (encodeUtf8 s) = octets := by
  induction h with
  | nil => rfl
  | @cons b octets high low h l s hhigh hlow hb _ ih =>
    have hdigit {c : Char} {d : Nat} (h : IsHexDigit c d) : hexValue? (octet c) = some d := by
      rw [hexValue?, ofNat_octet h.isInert.ascii, h.value]
    rw [encodeUtf8_cons (by decide), encodeUtf8_cons hhigh.isInert.ascii,
      encodeUtf8_cons hlow.isInert.ascii, percentDecode, if_pos rfl]
    simp only [hdigit hhigh, hdigit hlow, ih, ← hb]
    exact congrArg (· :: octets) (UInt8.ofNat_toNat)

theorem decodePart_eq {part : String} (h : Escapes part.toUTF8.data.toList s) :
    decodePart (encodeUtf8 s) = part := by
  rw [decodePart, h.map_plusToSpace, h.percentDecode_eq, ← encodeUtf8_toList,
    decodeUtf8_encodeUtf8, String.ofList_toList]

end Escapes

/-! ### Pairs -/

namespace IsPair
variable {pair : String × String}

theorem exists_parts (h : IsPair pair s) : ∃ name value, Escapes pair.1.toUTF8.data.toList name ∧
    Escapes pair.2.toUTF8.data.toList value ∧
      encodeUtf8 s = encodeUtf8 name ++ octet '=' :: encodeUtf8 value := by
  obtain ⟨name, value, hname, hvalue, rfl⟩ := h
  exact ⟨name, value, hname, hvalue, by rw [encodeUtf8_append, encodeUtf8_cons (by decide)]⟩

theorem ampersand_not_mem (h : IsPair pair s) : octet '&' ∉ encodeUtf8 s := by
  obtain ⟨name, value, hname, hvalue, hs⟩ := h.exists_parts
  rw [hs, List.mem_append, List.mem_cons]
  rintro (hmem | heq | hmem)
  · exact hname.ampersand_not_mem hmem
  · exact absurd heq (by decide)
  · exact hvalue.ampersand_not_mem hmem

theorem octets_ne_nil (h : IsPair pair s) : encodeUtf8 s ≠ [] := by
  obtain ⟨name, value, -, -, hs⟩ := h.exists_parts
  rw [hs]
  exact List.append_ne_nil_of_right_ne_nil _ (List.cons_ne_nil _ _)

theorem head?_ne_mark (h : IsPair pair s) (rest : List Char) : (s ++ rest).head? ≠ some '?' := by
  obtain ⟨name, value, hname, -, rfl⟩ := h
  generalize pair.1.toUTF8.data.toList = octets at hname
  cases hname with
  | nil => simp
  | cons => simp

theorem decodePair_eq (h : IsPair pair s) : decodePair (encodeUtf8 s) = pair := by
  obtain ⟨name, value, hname, hvalue, hs⟩ := h.exists_parts
  rw [hs, decodePair, cutAt_append hname.equals_not_mem]
  simp only [Option.getD_some, hname.decodePart_eq, hvalue.decodePart_eq]

theorem decode_eq (h : IsPair pair s) : decode s = [pair] := by
  rw [decode, splitAt_of_not_mem h.ampersand_not_mem,
    List.filter_cons_of_pos (by simpa using h.octets_ne_nil), List.map_cons, h.decodePair_eq]
  rfl

theorem decode_append (h : IsPair pair s) (rest : List Char) :
    decode (s ++ '&' :: rest) = pair :: decode rest := by
  rw [decode, encodeUtf8_append, encodeUtf8_cons (by decide), splitAt_append h.ampersand_not_mem,
    List.filter_cons_of_pos (by simpa using h.octets_ne_nil), List.map_cons, h.decodePair_eq, decode]

end IsPair

namespace IsQuery
variable {pairs : List (String × String)}

theorem decode_eq (h : IsQuery pairs s) : decode s = pairs := by
  obtain ⟨pieces, hpieces, rfl⟩ := h
  induction hpieces with
  | nil => rfl
  | cons hpair hrest ih =>
    cases hrest with
    | nil => rw [List.intercalate_singleton, hpair.decode_eq]
    | cons =>
      rw [List.intercalate_cons_cons, List.append_assoc]
      exact (hpair.decode_append _).trans (congrArg _ ih)

theorem head?_ne_mark (h : IsQuery pairs s) : s.head? ≠ some '?' := by
  obtain ⟨pieces, hpieces, rfl⟩ := h
  cases hpieces with
  | nil => simp
  | cons hpair hrest =>
    cases hrest with
    | nil => simpa using hpair.head?_ne_mark []
    | cons =>
      rw [List.intercalate_cons_cons, List.append_assoc]
      exact hpair.head?_ne_mark _

end IsQuery

/-! ### Writing -/

theorem isHexDigit_digitChar (h : d < 16) : IsHexDigit (digitChar d) d := ⟨h, .inl (digitChar_eq h)⟩

theorem escapes_flatMap (octets : List UInt8) : Escapes octets (octets.flatMap escapeOctet) := by
  induction octets with
  | nil => exact .nil
  | cons b octets ih =>
    have hb : b.toNat < 256 := b.toNat_lt
    have hhigh := isHexDigit_digitChar (d := b.toNat / 16 % 16) (by omega)
    have hlow := isHexDigit_digitChar (d := b.toNat % 16) (by omega)
    exact .cons hhigh hlow (by omega) ih

theorem isPair_encodePair (pair : String × String) : IsPair pair (encodePair pair) := by
  refine ⟨encodePart pair.1, encodePart pair.2, ?_, ?_, ?_⟩
  · rw [encodePart, encodeUtf8_toList]
    exact escapes_flatMap _
  · rw [encodePart, encodeUtf8_toList]
    exact escapes_flatMap _
  · rw [encodePair, List.append_assoc, List.singleton_append]

theorem isQuery_encode (pairs : List (String × String)) : IsQuery pairs (encode pairs) := by
  refine ⟨pairs.map encodePair, ?_, rfl⟩
  induction pairs with
  | nil => exact .nil
  | cons pair pairs ih => exact .cons (isPair_encodePair pair) ih

end Form

namespace QueryPairs

theorem get?_eq_getLast? (p : QueryPairs) (name : String) : p.get? name = (p.getAll name).getLast? := by
  rw [get?, OrderedMap.lookup_eq_head?, getAll, List.filter_reverse, List.map_reverse, List.head?_reverse]

/-- Pairs that were escaped octet by octet, with digits of either case, and joined come back as they
were, with or without a question mark in front. -/
theorem ofQuery_restores_pairs {pairs : List (String × String)} {s : List Char}
    (h : Form.IsQuery pairs s) : ofQuery s = ofList pairs ∧ ofQuery ('?' :: s) = ofList pairs ∧
      ∀ name, (ofQuery s).getAll name = (pairs.filter (·.1 = name)).map Prod.snd ∧
        (ofQuery s).get? name = ((pairs.filter (·.1 = name)).map Prod.snd).getLast? := by
  have hsame : ofQuery s = ofList pairs := by
    rw [← (ofList_decode_eq_ofQuery_iff s).mpr h.head?_ne_mark, h.decode_eq]
  have hmark : ofQuery ('?' :: s) = ofList pairs := congrArg ofList h.decode_eq
  refine ⟨hsame, hmark, fun name => ?_⟩
  rw [get?_eq_getLast?, hsame]
  exact ⟨rfl, rfl⟩

/-- Delimiters, an empty pair, a repeated name and characters of several octets. -/
theorem delimiters_come_back :
    let pairs := [("a&b=", "x+y %?"), ("", ""), ("é", "日😀"), ("a&b=", "")]
    let s := "%61%26%62%3d=%78%2b%79%20%25%3f&=&%c3%a9=%e6%97%a5%f0%9f%98%80&%61%26%62%3d=".toList
    Form.IsQuery pairs s ∧ ofQuery s = ofList pairs ∧ ofQuery ('?' :: s) = ofList pairs ∧
      (ofQuery s).getAll "a&b=" = ["x+y %?", ""] ∧ (ofQuery s).get? "a&b=" = some "" := by
  intro pairs s
  have hencode : Form.encode pairs = s := by decide +kernel
  have hquery : Form.IsQuery pairs s := hencode ▸ Form.isQuery_encode pairs
  obtain ⟨hsame, hmark, hvalues⟩ := ofQuery_restores_pairs hquery
  obtain ⟨hall, hlast⟩ := hvalues "a&b="
  exact ⟨hquery, hsame, hmark, hall.trans (by decide +kernel), hlast.trans (by decide +kernel)⟩

end QueryPairs

end Allowlist
