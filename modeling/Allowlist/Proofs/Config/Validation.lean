import Allowlist.Proofs.Config.Clauses
import Allowlist.Proofs.OrderedMap.Union

/-! # What a declaration comes to

Building looks at the maximum, then at the default size of a page, then at the default sort key, and
tells the first of them that is out of place. Where none is, there is a configuration, and of
everything it has the last that the clauses say. Clauses of each kind are read by themselves: how
they are interleaved with those of other kinds makes no difference. -/

namespace Allowlist.ListConfig

namespace Declaration
variable {d : Declaration}

end Declaration

open Declaration

section
variable (key : String) (direction : SortDirection) (clauses : List Clause)

variable {key direction clauses} {c : ListConfig}

end

end Allowlist.ListConfig
