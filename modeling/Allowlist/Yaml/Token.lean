import Allowlist.Yaml.Scalar
import Allowlist.Yaml.Tag

/-! # Tokens of YAML

The tokens of a YAML text. Blocks that are set off by indentation have tokens at their start and
end, as those in brackets have. -/

namespace Allowlist.Yaml

/-- A token of a YAML text. -/
inductive Token
  | directive (d : Directive)
  | documentStart
  | documentEnd
  | blockSequenceStart
  | blockMappingStart
  | blockEnd
  | flowSequenceStart
  | flowSequenceEnd
  | flowMappingStart
  | flowMappingEnd
  | blockEntry
  | flowEntry
  | key
  | value
  | alias (name : String)
  | anchor (name : String)
  | tag (t : Tag)
  | scalar (style : Style) (text : String)
  deriving DecidableEq, Repr

end Allowlist.Yaml
