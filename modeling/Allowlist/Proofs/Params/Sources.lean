import Allowlist.Http.Route
import Allowlist.Proofs.Params.Form
import Allowlist.Proofs.Text.Decimal

/-! # The same query in a URL and in a request target

A URL and a request target with the same path and query have the same text as their query: what
either reader drops or takes for a delimiter the other one refuses or reads alike. Their pairs are
the same as long as that text does not start with a question mark, which is part of the first name
in the one and passed over in the other. -/

namespace Allowlist

open Text

/-- Behind text without delimiters the query is cut off as it is. -/
theorem cutAt_query {front query : List Char} (hfront : '?' ∉ front ∧ '#' ∉ front)
    (hquery : '#' ∉ query) :
    cutAt '?' (cutAt '#' (front ++ '?' :: query)).1 = (front, some query) := by
  have hhash : '#' ∉ front ++ '?' :: query := by
    rw [List.mem_append, List.mem_cons, not_or, not_or]
    exact ⟨hfront.2, by decide, hquery⟩
  rw [cutAt_of_not_mem hhash, cutAt_append hfront.1]

/-! ### The request target -/

namespace Http.Target
variable {path query : List Char} {t : Target}

theorem parse?_slash (s : List Char) : parse? ('/' :: s) =
    if maxLength < (encodeUtf8 ('/' :: s)).length then none else ofPath? ('/' :: s) := rfl

theorem query?_of_parse? (hpath : '?' ∉ path ∧ '#' ∉ path) (hquery : '#' ∉ query)
    (h : parse? ('/' :: path ++ '?' :: query) = some t) :
    t.query? = some query ∧ ∀ c ∈ query, isQueryChar c = true := by
  have hfront : '?' ∉ '/' :: path ∧ '#' ∉ '/' :: path := by simpa using hpath
  rw [List.cons_append, parse?_slash, ← List.cons_append] at h
  split at h
  · cases h
  · simp only [ofPath?, cutAt_query hfront hquery, Option.getD_some] at h
    split at h
    · next hchars =>
      cases h
      exact ⟨rfl, List.all_eq_true.mp (Bool.and_eq_true_iff.mp hchars).2⟩
    · cases h

theorem pairs_of_query? (h : t.query? = some query) : t.pairs = .ofQuery query := by
  rw [pairs, h]; rfl

end Http.Target

/-! ### The URL -/

namespace Url
variable {host path query : List Char} {u : Url}

theorem not_isMargin_of_isQueryChar {c : Char} (h : Http.Target.isQueryChar c = true) :
    isMargin c = false := by
  simp only [Http.Target.isQueryChar, Bool.or_eq_true, Bool.and_eq_true, beq_iff_eq,
    decide_eq_true_eq] at h
  simp only [isMargin, decide_eq_false_iff_not]
  omega

theorem not_isDropped_of_not_isMargin {c : Char} (h : isMargin c = false) : isDropped c = false := by
  cases hd : isDropped c with
  | false => rfl
  | true =>
    simp only [isDropped, Bool.or_eq_true, decide_eq_true_eq] at hd
    rcases hd with (rfl | rfl) | rfl <;> exact absurd h (by decide)

/-- Of a text that neither starts nor ends with a margin, what counts is all that is not dropped. -/
theorem strip_eq_filter {s : List Char} (hhead : ∀ c ∈ s.head?, isMargin c = false)
    (hlast : ∀ c ∈ s.getLast?, isMargin c = false) : strip s = s.filter (!isDropped ·) := by
  have hback : ∀ c ∈ s.reverse.head?, isMargin c = false := by rwa [List.head?_reverse]
  rw [strip, dropWhile_of_head? hhead, dropWhile_of_head? hback, List.reverse_reverse]

theorem strip_http (host path : List Char)
    (hchars : ∀ c ∈ query, Http.Target.isQueryChar c = true) :
    strip ("http://".toList ++ host ++ '/' :: path ++ '?' :: query) = "http:".toList ++
      ('/' :: '/' :: (host.filter (!isDropped ·) ++ '/' :: path.filter (!isDropped ·)) ++
        '?' :: query) := by
  have hmargin : ∀ c ∈ '?' :: query, isMargin c = false :=
    List.forall_mem_cons.mpr ⟨by decide, fun c hc => not_isMargin_of_isQueryChar (hchars c hc)⟩
  rw [strip_eq_filter]
  · -- the target lets nothing into a query that a URL drops; its host and path may lose characters
    have hhttp : "http://".toList.filter (!isDropped ·) = "http:".toList ++ ['/', '/'] := by decide
    have hslash : ('/' :: path).filter (!isDropped ·) = '/' :: path.filter (!isDropped ·) :=
      List.filter_cons_of_pos (by decide)
    have hkept : ('?' :: query).filter (!isDropped ·) = '?' :: query :=
      List.filter_eq_self.mpr fun c hc => by
        rw [not_isDropped_of_not_isMargin (hmargin c hc), Bool.not_false]
    rw [List.filter_append, hkept, List.filter_append, List.filter_append, hhttp, hslash]
    simp only [List.append_assoc, List.cons_append, List.nil_append]
  · intro c hc
    cases hc
    rfl
  · intro c hc
    rw [List.getLast?_append, List.getLast?_cons, Option.some_or] at hc
    exact hmargin c (List.mem_of_getLast? (List.getLast?_cons.trans hc))

theorem takeScheme?_http (s : List Char) :
    takeScheme? ("http:".toList ++ s) = some ("http".toList, s) := rfl

theorem query?_of_parse? (hhost : '?' ∉ host ∧ '#' ∉ host) (hpath : '?' ∉ path ∧ '#' ∉ path)
    (hquery : '#' ∉ query) (hchars : ∀ c ∈ query, Http.Target.isQueryChar c = true)
    (h : parse? ("http://".toList ++ host ++ '/' :: path ++ '?' :: query) = some u) :
    u.query? = some query := by
  have hfront (c : Char) (hc : c ≠ '/') (hh : c ∉ host) (hp : c ∉ path) :
      c ∉ '/' :: '/' :: (host.filter (!isDropped ·) ++ '/' :: path.filter (!isDropped ·)) := by
    simp [hc, hh, hp]
  simp only [parse?, strip_http host path hchars, takeScheme?_http, Option.bind_eq_bind,
    Option.bind_some] at h
  split at h
  · cases h
    rw [cutAt_query ⟨hfront '?' (by decide) hhost.1 hpath.1, hfront '#' (by decide) hhost.2 hpath.2⟩
      hquery]
  · cases h

theorem pairs_of_query? (h : u.query? = some query) : u.pairs = .ofList (Form.decode query) := by
  rw [pairs, h]; rfl

end Url

/-! ### Both -/

/-- A query is decoded as it is exactly if it has no question mark to pass over. -/
theorem QueryPairs.ofList_decode_eq_ofQuery_iff (s : List Char) :
    QueryPairs.ofList (Form.decode s) = .ofQuery s ↔ s.head? ≠ some '?' := by
  cases s with
  | nil => exact iff_of_true rfl (by simp)
  | cons c rest =>
    by_cases hc : c = '?'
    · subst hc
      refine iff_of_false (fun h => ?_) (by simp)
      exact Form.decode_mark_ne rest (QueryPairs.mk.inj h)
    · have hstrip : stripMark (c :: rest) = c :: rest := by
        unfold stripMark
        split
        · next heq => exact absurd (List.cons.inj heq).1 hc
        · rfl
      exact iff_of_true (by rw [ofQuery, hstrip]; rfl) (by simpa using hc)

namespace QueryInput
variable {host path query : List Char} {u : Url} {t : Http.Target}

/-- A URL and a request target with one path and one query come to the same pairs, for a handler
too, exactly if the query does not start with a question mark; and if it does not, they ask for the
same under every configuration. -/
theorem normalize_url_eq_iff (hhost : '?' ∉ host ∧ '#' ∉ host) (hpath : '?' ∉ path ∧ '#' ∉ path)
    (hquery : '#' ∉ query)
    (hu : Url.parse? ("http://".toList ++ host ++ '/' :: path ++ '?' :: query) = some u)
    (ht : Http.Target.parse? ('/' :: path ++ '?' :: query) = some t) :
    ((url u).normalize = (request t).normalize ↔ query.head? ≠ some '?') ∧
      ((url u).normalize = Http.handlerParams t ↔ query.head? ≠ some '?') ∧
      (query.head? ≠ some '?' → ∀ c : ListConfig, c.queryOf (.url u) = c.queryOf (.request t)) := by
  obtain ⟨htarget, hchars⟩ := Http.Target.query?_of_parse? hpath hquery ht
  have hurl := Url.query?_of_parse? hhost hpath hquery hchars hu
  have hiff : (url u).normalize = (request t).normalize ↔ query.head? ≠ some '?' := by
    show u.pairs = t.pairs ↔ _
    rw [Url.pairs_of_query? hurl, Http.Target.pairs_of_query? htarget]
    exact QueryPairs.ofList_decode_eq_ofQuery_iff query
  exact ⟨hiff, hiff, fun hmark c => congrArg c.query (hiff.mpr hmark)⟩

/-- A question mark further back, escapes and empty pieces are all the same to both. -/
theorem normalize_of_tricky_query :
    let path := "goods".toList
    let query := "a?=%3f&&q=x+y%2".toList
    let u : Url := ⟨"http".toList, some query⟩
    let t : Http.Target := ⟨some query⟩
    Url.parse? ("http://".toList ++ "shop".toList ++ '/' :: path ++ '?' :: query) = some u ∧
      Http.Target.parse? ('/' :: path ++ '?' :: query) = some t ∧
      (url u).normalize = (request t).normalize ∧
      ∀ c : ListConfig, c.queryOf (.url u) = c.queryOf (.request t) := by
  intro path query u t
  have hu : Url.parse? ("http://".toList ++ "shop".toList ++ '/' :: path ++ '?' :: query) = some u := by
    decide +kernel
  have ht : Http.Target.parse? ('/' :: path ++ '?' :: query) = some t := by decide +kernel
  obtain ⟨hiff, -, hquery⟩ :=
    normalize_url_eq_iff (by decide) (by decide) (by decide) hu ht
  have hmark : query.head? ≠ some '?' := by decide
  exact ⟨hu, ht, hiff.mpr hmark, hquery hmark⟩

/-- Of two question marks in a row the request target loses both, the URL one. -/
theorem normalize_url_ne_request :
    ¬ ∀ (host path query : List Char) (u : Url) (t : Http.Target), '?' ∉ host ∧ '#' ∉ host →
      '?' ∉ path ∧ '#' ∉ path → '#' ∉ query →
        Url.parse? ("http://".toList ++ host ++ '/' :: path ++ '?' :: query) = some u →
        Http.Target.parse? ('/' :: path ++ '?' :: query) = some t →
          (url u).normalize = (request t).normalize := by
  intro h
  have hsame := h "h".toList "p".toList "?a=1".toList ⟨"http".toList, some "?a=1".toList⟩
    ⟨some "?a=1".toList⟩ (by decide) (by decide) (by decide) (by decide +kernel) (by decide +kernel)
  exact absurd hsame (by decide +kernel)

end QueryInput

end Allowlist
