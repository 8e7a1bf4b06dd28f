import Allowlist.Http.Response
import Allowlist.Listing.Run

/-! # Routes

A list endpoint that is served: a table of a store behind a configuration. -/

namespace Allowlist.Http

/-- The parameters that a handler gets of a request with this target. -/
def handlerParams (target : Target) : QueryPairs := (QueryInput.request target).normalize

/-- A table of a store behind a configuration. -/
structure ListRoute (m : Type → Type) (Row : Type) where
  store : DataStore m Row
  table : String
  config : ListConfig
  count : Bool := true

namespace ListRoute
variable {m : Type → Type} [Monad m] {Row : Type}

def list (route : ListRoute m Row) (params : QueryPairs) (base : Option Predicate) :
    ExceptT ListError m (ListEnvelope Row) :=
  (route.store.listEnvelope route.table (.parsed (route.config.query params)) base
    route.count).adapt .storage

def respond (route : ListRoute m Row) (row : Row → Json) (params : QueryPairs)
    (base : Option Predicate) : m Response := do
  match ← (route.list params base).run with
  | .ok page => return .ofList row page
  | .error e => return .ofError e

end ListRoute

end Allowlist.Http
