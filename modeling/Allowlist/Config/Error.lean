/-! # Errors of a configuration

What can be wrong with the declaration of a list endpoint, and how it is told. -/

namespace Allowlist

/-- Why there is no configuration. -/
inductive ConfigError
  | unknownDefaultSort (key : String)
  | invalidValue (field value message : String)
  | unreadable (file : Option String) (message : String)
  | unknownEndpoint (name : String)
  | io (message : String)
  deriving DecidableEq, Repr

namespace ConfigError

def message : ConfigError → String
  | unknownDefaultSort key => "Default sort key '" ++ key ++ "' is not declared as sortable"
  | invalidValue field value message =>
    "Invalid value '" ++ value ++ "' for field '" ++ field ++ "': " ++ message
  | unreadable none message => "Failed to parse config: " ++ message
  | unreadable (some file) message => "Failed to parse config file '" ++ file ++ "': " ++ message
  | unknownEndpoint name => "List endpoint '" ++ name ++ "' is not configured"
  | io message => "IO error: " ++ message

def code : ConfigError → String
  | unknownDefaultSort _ => "UNKNOWN_DEFAULT_SORT"
  | invalidValue _ _ _ => "INVALID_CONFIG_VALUE"
  | unreadable _ _ => "CONFIG_PARSE_ERROR"
  | unknownEndpoint _ => "UNKNOWN_ENDPOINT"
  | io _ => "CONFIG_IO_ERROR"

end ConfigError

end Allowlist
