import Allowlist.Http.Route

/-! # What a listing asks of its store

A listing selects rows once and, if a total is wanted and rows came, counts once under the very
condition that it selected by. Each way to ask for a listing takes this course; they differ in the
form of what they hand out and not in what is in it. The first question that fails decides: its error
is the answer, and nothing is asked after it. -/

namespace Allowlist

/-- What an envelope holds besides the place of its page. -/
def ListEnvelope.toRows {Row : Type} (e : ListEnvelope Row) : ListRows Row :=
  ⟨e.data, e.page.total, e.page.hasMore⟩

/-- A question put to a store. -/
inductive Call
  | select (table : String) (query : SelectQuery)
  | count (table : String) (filter : Option Predicate)

/-- What a computation on a state answers, and the state that it leaves. -/
def answerFrom {σ ε α : Type} (x : ExceptT ε (StateM σ) α) (s : σ) : Except ε α × σ :=
  Id.run (x.run.run s)

section
variable {σ ε ε' α β : Type} {x : ExceptT ε (StateM σ) α} {s s' : σ}

theorem answerFrom_bind_of_ok {f : α → ExceptT ε (StateM σ) β} {a : α}
    (h : answerFrom x s = (.ok a, s')) : answerFrom (x >>= f) s = answerFrom (f a) s' := by
  simp only [answerFrom, ExceptT.run_bind, StateT.run_bind, Id.run_bind] at h ⊢
  rw [h]

theorem answerFrom_bind_of_error {f : α → ExceptT ε (StateM σ) β} {e : ε}
    (h : answerFrom x s = (.error e, s')) : answerFrom (x >>= f) s = (.error e, s') := by
  simp only [answerFrom, ExceptT.run_bind, StateT.run_bind, Id.run_bind] at h ⊢
  rw [h]; rfl

theorem answerFrom_map {answer : Except ε α} (h : answerFrom x s = (answer, s')) (f : α → β) :
    answerFrom (do return f (← x)) s = (answer.map f, s') := by
  cases answer with
  | error e => exact answerFrom_bind_of_error h
  | ok a => exact answerFrom_bind_of_ok h

theorem answerFrom_adapt {answer : Except ε α} (h : answerFrom x s = (answer, s')) (f : ε → ε') :
    answerFrom (x.adapt f) s = (answer.mapError f, s') := by
  simp only [answerFrom, ExceptT.run_adapt, StateT.run_map, Id.run_map] at h ⊢
  rw [h]

end

namespace DataStore
variable {σ Row : Type}

/-- The computation that also notes a question behind those before it. -/
def noted {α : Type} (call : Call) (x : ExceptT StoreError (StateM σ) α) :
    ExceptT StoreError (StateM (σ × List Call)) α :=
  .mk fun (s, calls) => ((answerFrom x s).1, (answerFrom x s).2, calls ++ [call])

/-- The store with a list of the questions put to it, in their order. -/
def noting (store : DataStore (StateM σ) Row) : DataStore (StateM (σ × List Call)) Row where
  select table query := noted (.select table query) (store.select table query)
  count table filter := noted (.count table filter) (store.count table filter)

theorem answerFrom_noted {α : Type} {x : ExceptT StoreError (StateM σ) α} {s s' : σ}
    {answer : Except StoreError α} (h : answerFrom x s = (answer, s')) (call : Call)
    (calls : List Call) :
    answerFrom (noted call x) (s, calls) = (answer, s', calls ++ [call]) := by
  show ((answerFrom x s).1, (answerFrom x s).2, calls ++ [call]) = _
  rw [h]

/-- The course of a listing from a state of the store, with a total counted or not: the questions
put, the rows with their total and whether more follow, and the state that is left. -/
inductive Course (store : DataStore (StateM σ) Row) (table : String) (query : SelectQuery) (s : σ) :
    (count : Bool) → List Call → Except StoreError (ListRows Row) → σ → Prop
  | notSelected {count : Bool} {e : StoreError} {s' : σ}
      (selected : answerFrom (store.select table query) s = (.error e, s')) :
      Course store table query s count [.select table query] (.error e) s'
  | uncounted {rows : List Row} {s' : σ}
      (selected : answerFrom (store.select table query) s = (.ok rows, s')) :
      Course store table query s false [.select table query]
        (.ok ⟨rows, advance query.offset rows.length, rows.length = query.limit.toNat⟩) s'
  | notCounted {rows : List Row} {e : StoreError} {s' s'' : σ}
      (selected : answerFrom (store.select table query) s = (.ok rows, s'))
      (counted : answerFrom (store.count table query.filter) s' = (.error e, s'')) :
      Course store table query s true [.select table query, .count table query.filter] (.error e) s''
  | counted {rows : List Row} {total : Option UInt64} {s' s'' : σ}
      (selected : answerFrom (store.select table query) s = (.ok rows, s'))
      (counted : answerFrom (store.count table query.filter) s' = (.ok total, s'')) :
      Course store table query s true [.select table query, .count table query.filter]
        (.ok ⟨rows, total.getD 0, advance query.offset rows.length < total.getD 0⟩) s''

section
variable (store : DataStore (StateM σ) Row) (table : String) (q : ListQuery)
  (base : Option Predicate) (count : Bool) (s : σ)

theorem exists_course : ∃ (calls : List Call) (page : Except StoreError (Page Row)) (s' : σ),
    Course store table (q.selection base) s count calls (page.map Page.toRows) s' ∧
      answerFrom (store.noting.fetchPage table q base count) (s, []) = (page, s', calls) := by
  rcases hselected : answerFrom (store.select table (q.selection base)) s with ⟨answer, s'⟩
  have hselect := answerFrom_noted hselected (.select table (q.selection base)) []
  cases answer with
  | error e => exact ⟨_, .error e, s', .notSelected hselected, answerFrom_bind_of_error hselect⟩
  | ok rows =>
    -- only here is there a second question, and only if a total is wanted
    cases count with
    | false =>
      exact ⟨_, .ok (.uncounted q rows), s', .uncounted hselected, answerFrom_bind_of_ok hselect⟩
    | true =>
      rcases hcounted : answerFrom (store.count table (q.selection base).filter) s' with
        ⟨answer, s''⟩
      have hcount := answerFrom_noted hcounted (.count table (q.selection base).filter)
        [.select table (q.selection base)]
      cases answer with
      | error e =>
        exact ⟨_, .error e, s'', .notCounted hselected hcounted,
          (answerFrom_bind_of_ok hselect).trans (answerFrom_bind_of_error hcount)⟩
      | ok total =>
        exact ⟨_, .ok (.counted q rows (total.getD 0)), s'', .counted hselected hcounted,
          (answerFrom_bind_of_ok hselect).trans (answerFrom_bind_of_ok hcount)⟩

end

section
variable {store : DataStore (StateM σ) Row} {table : String} {source : ListSource}
  {base : Option Predicate} {count : Bool} {s s' : σ} {page : Except StoreError (Page Row)}

theorem answerFrom_listRows
    (h : answerFrom (store.fetchPage table source.resolve base count) s = (page, s')) :
    answerFrom (store.listRows table source base count) s = (page.map Page.toRows, s') :=
  answerFrom_map h Page.toRows

theorem answerFrom_listEnvelope
    (h : answerFrom (store.fetchPage table source.resolve base count) s = (page, s')) :
    answerFrom (store.listEnvelope table source base count) s = (page.map Page.toEnvelope, s') :=
  answerFrom_map h Page.toEnvelope

end

/-- Every way to ask for a listing, by its parameters or by the query that they come to, for rows or
for an envelope, directly or through a route, takes one and the same course, and what it hands out
holds the rows, the total and the mark of that course, or else its error. -/
theorem entry_points_take_one_course (store : DataStore (StateM σ) Row) (s : σ) (table : String)
    (c : ListConfig) (input : QueryInput) (base : Option Predicate) (count : Bool) :
    let q := c.queryOf input
    ∃ (calls : List Call) (rows : Except StoreError (ListRows Row))
      (envelope : Except StoreError (ListEnvelope Row)) (s' : σ),
      Course store table ⟨q.filterWith base, q.orderBy, q.limit, q.offset⟩ s count calls rows s' ∧
      envelope.map ListEnvelope.toRows = rows ∧
      (∀ source : ListSource, source = .raw input c ∨ source = .parsed q →
        answerFrom (store.noting.listRows table source base count) (s, []) = (rows, s', calls) ∧
        answerFrom (store.noting.listEnvelope table source base count) (s, []) =
          (envelope, s', calls) ∧
        answerFrom (store.noting.list table source base count .rows) (s, []) =
          (rows.map .rows, s', calls) ∧
        answerFrom (store.noting.list table source base count .envelope) (s, []) =
          (envelope.map .envelope, s', calls)) ∧
      answerFrom ((Http.ListRoute.mk store.noting table c count).list input.normalize base) (s, []) =
        (envelope.mapError .storage, s', calls) := by
  intro q
  obtain ⟨calls, page, s', hcourse, hpage⟩ := exists_course store table q base count s
  refine ⟨calls, page.map Page.toRows, page.map Page.toEnvelope, s', hcourse, ?_, ?_, ?_⟩
  · cases page <;> rfl
  · rintro source hsource
    have hresolve : source.resolve = q := by rcases hsource with rfl | rfl <;> rfl
    rw [← hresolve] at hpage
    have hrows := answerFrom_listRows hpage
    have henvelope := answerFrom_listEnvelope hpage
    exact ⟨hrows, henvelope, answerFrom_map hrows ListOutput.rows,
      answerFrom_map henvelope ListOutput.envelope⟩
  · have henvelope : answerFrom (store.noting.listEnvelope table (.parsed q) base count) (s, []) =
        (page.map Page.toEnvelope, s', calls) := answerFrom_listEnvelope hpage
    exact answerFrom_adapt henvelope ListError.storage

end DataStore

end Allowlist
