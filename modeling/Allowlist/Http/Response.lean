import Allowlist.Config.Error
import Allowlist.Listing.Page
import Allowlist.Store.Error

/-! # Responses

What an endpoint answers: an envelope, or an error with its code and text. -/

namespace Allowlist

/-- Why a listing failed. -/
inductive ListError
  | config (cause : ConfigError)
  | storage (cause : StoreError)
  deriving DecidableEq, Repr

namespace ListError

def message : ListError → String
  | config cause => cause.message
  | storage cause => cause.message

def code : ListError → String
  | config cause => cause.code
  | storage _ => "STORAGE_ERROR"

/-- The HTTP status of an error: none of them is the client's fault. -/
def status (_ : ListError) : Nat := 500

def toJson (e : ListError) : Json :=
  .object [("code", .string e.code), ("message", .string e.message)]

end ListError

namespace Http

/-- An HTTP response. -/
structure Response where
  status : Nat
  contentType : String
  body : String
  deriving DecidableEq, Repr

namespace Response

def ofJson (status : Nat) (v : Json) : Response := ⟨status, "application/json", v.text⟩

def ofList {α : Type} (row : α → Json) (e : ListEnvelope α) : Response := ofJson 200 (e.toJson row)

def ofItem {α : Type} (item : α → Json) (e : ItemEnvelope α) : Response :=
  ofJson 200 (e.toJson item)

def ofError (e : ListError) : Response := ofJson e.status e.toJson

end Response

end Http

end Allowlist
