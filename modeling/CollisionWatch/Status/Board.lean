import CollisionWatch.Fault
import CollisionWatch.Status.Basic

/-!
# The board that shows the status

One writer updates the status, any number of readers copy it, and an update is seen as a whole or
not at all.  An update that breaks off half-way leaves the board poisoned: from then on nobody reads
it or writes it.
-/

namespace CollisionWatch

/-- A shared status. -/
structure StatusBoard where
  /-- The status. -/
  status : SafetyStatus
  /-- An update broke off half-way. -/
  poisoned : Bool := false

namespace StatusBoard

/-- A board that knows nothing of these components yet. -/
def ofNames (names : List String) : StatusBoard := { status := .ofNames names }

/-- A copy of the status. -/
def snapshot (board : StatusBoard) : Except Fault SafetyStatus :=
  if board.poisoned then .error .poisonedStatus else .ok board.status

/-- The vehicle must stop. -/
def mustStop (board : StatusBoard) : Except Fault Bool :=
  board.snapshot.map (·.stop)

/-- Update the status as a whole. -/
def update {α : Type} (board : StatusBoard) (change : SafetyStatus → α × SafetyStatus) :
    Except Fault α × StatusBoard :=
  if board.poisoned then (.error .poisonedStatus, board)
  else
    let (answer, status) := change board.status
    (.ok answer, { board with status })

/-- An update that breaks off half-way. -/
def poison (board : StatusBoard) : Except Fault Unit × StatusBoard :=
  if board.poisoned then (.error .poisonedStatus, board)
  else (.ok (), { board with poisoned := true })

end StatusBoard

end CollisionWatch
