import CollisionWatch.Fault
import CollisionWatch.FrameTree.Lookup

/-!
# Resolving a motion

`resolve` is `lookup` with a fault where no chain of usable links joins the frames.
-/

namespace CollisionWatch.FrameTree

variable {T : Type} [Motion T]

/-- The motion that takes points of the source frame into the target frame at a time. -/
def resolve (tree : FrameTree T) (time : Float) (target source : String) :
    Except Crash (Except Fault T) := do
  match ← tree.lookup time target source with
  | some motion => return .ok motion
  | none => return .error (.unresolved time target source)

end CollisionWatch.FrameTree
