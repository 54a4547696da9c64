import CollisionWatch.FrameTree.Basic

/-!
# Motions across a tree of frames

`lookup` finds the motion that takes points of a source frame into a target frame: a breadth-first
search from the target over the links that are usable at the time, downwards as they are and upwards
by their inverse.  So the chain of links it composes is one of the shortest.
-/

namespace CollisionWatch.FrameTree

variable {T : Type} [Motion T]

/-- The frames below a frame, with the motions that lead there. -/
def children (tree : FrameTree T) (time : Float) (frame : String) :
    Except Crash (List (String × T)) :=
  ((tree.links.get? frame).getD .empty).entries.filterMapM fun (child, link) => do
    let motion ← link.at? time tree.tolerance
    return motion.map (child, ·)

/-- The frames above a frame, with the motions that lead there. -/
def ancestors (tree : FrameTree T) (time : Float) (frame : String) :
    Except Crash (List (String × T)) :=
  ((tree.parents.get? frame).getD .empty).entries.filterMapM fun (parent, _) => do
    match tree.link? parent frame with
    | none => return none
    | some link =>
      let motion ← link.at? time tree.tolerance
      return motion.map fun m => (parent, Motion.inverse m)

/-- The frames one usable link away, the ones below first. -/
def neighbours (tree : FrameTree T) (time : Float) (frame : String) :
    Except Crash (List (String × T)) := do
  return (← tree.children time frame) ++ (← tree.ancestors time frame)

/-- What a look at the neighbours of a frame brings. -/
inductive Expansion (T : Type) where
  /-- The source is among them. -/
  | arrived (motion : T)
  /-- It is not: the frames seen so far, and the new ones with their motions. -/
  | onward (seen : List String) (fresh : List (String × T))

/-- Look at the neighbours of a frame that `reached` leads to, in order. -/
def expand (source : String) (reached : T) :
    List (String × T) → List String → List (String × T) → Expansion T
  | [], seen, fresh => .onward seen fresh.reverse
  | (frame, step) :: rest, seen, fresh =>
    if frame ∈ seen then expand source reached rest seen fresh
    else
      let motion := Motion.compose reached step
      if frame = source then .arrived motion
      else expand source reached rest (frame :: seen) ((frame, motion) :: fresh)

/-- Search from the frames in the queue; every step takes one of them. -/
def search (step : String → Except Crash (List (String × T))) (source : String) :
    Nat → List String → List (String × T) → Except Crash (Option T)
  | 0, _, _ => .ok none
  | _, _, [] => .ok none
  | steps + 1, seen, (frame, reached) :: queue => do
    match expand source reached (← step frame) seen [] with
    | .arrived motion => return some motion
    | .onward seen fresh => search step source steps seen (queue ++ fresh)

/-- A bound for the number of frames of a tree, and one more. -/
def frameBound (tree : FrameTree T) : Nat := tree.links.size + tree.parents.size + 1

/-- The motion that takes points of the source frame into the target frame at a time; none if no
chain of usable links joins them. -/
def lookup (tree : FrameTree T) (time : Float) (target source : String) :
    Except Crash (Option T) :=
  if source = target then .ok (some Motion.identity)
  else search (tree.neighbours time) source tree.frameBound [target] [(target, Motion.identity)]

end CollisionWatch.FrameTree
