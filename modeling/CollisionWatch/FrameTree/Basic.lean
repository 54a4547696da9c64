import CollisionWatch.NameMap
import CollisionWatch.FrameTree.History

/-!
# Trees of frames

A tree of frames holds the links between named frames.  A link leads from a parent to a child and
carries the motion that takes points of the child into the parent: a fixed one, or samples recorded
over time.  Beside the links the tree keeps for every child the parents that link to it, so that it
can be walked upwards as well.
-/

namespace CollisionWatch

/-- What joins a parent to a child. -/
inductive Link (T : Type) where
  /-- One motion for all time. -/
  | fixed (motion : T)
  /-- Motions recorded over time. -/
  | recorded (history : History T)

namespace Link

variable {T : Type}

/-- The motion of the link at a time. -/
def at? [Motion T] (link : Link T) (time tolerance : Float) : Except Crash (Option T) :=
  match link with
  | fixed motion => .ok (some motion)
  | recorded history => history.at? time tolerance

/-- The history of the link; a fixed motion has none. -/
def history : Link T → History T
  | fixed _ => {}
  | recorded history => history

end Link

/-- A tree of frames. -/
structure FrameTree (T : Type) where
  /-- The links, by parent and child. -/
  links : NameMap (NameMap (Link T)) := .empty
  /-- The parents of every child. -/
  parents : NameMap (NameMap Unit) := .empty
  /-- How many samples a link keeps. -/
  historyLength : Nat := 100
  /-- How far outside its samples a link may be used, in seconds. -/
  tolerance : Float := 0.1

namespace FrameTree

variable {T : Type}

/-- The tree with another tolerance; what is not above zero is zero. -/
def withTolerance (tree : FrameTree T) (seconds : Float) : FrameTree T :=
  { tree with tolerance := if 0 < seconds then seconds else 0 }

/-- The tree with another length of history, one at least. -/
def withHistory (tree : FrameTree T) (length : Nat) : FrameTree T :=
  { tree with historyLength := max length 1 }

/-- The link from a parent to a child. -/
def link? (tree : FrameTree T) (parent child : String) : Option (Link T) :=
  (tree.links.get? parent).bind (·.get? child)

/-- The tree with this link. -/
def setLink (tree : FrameTree T) (parent child : String) (link : Link T) : FrameTree T :=
  { tree with
    links := tree.links.insert parent
      (((tree.links.get? parent).getD .empty).insert child link)
    parents := tree.parents.insert child
      (((tree.parents.get? child).getD .empty).insert parent ()) }

/-- Fix the motion from a parent to a child for all time. -/
def setFixed (tree : FrameTree T) (parent child : String) (motion : T) : FrameTree T :=
  tree.setLink parent child (.fixed motion)

/-- Record the motion from a parent to a child at a time, in place of a fixed one. -/
def record (tree : FrameTree T) (parent child : String) (stamp : Float) (motion : T) :
    FrameTree T :=
  let history := ((tree.link? parent child).map Link.history).getD {}
  tree.setLink parent child (.recorded (history.record tree.historyLength stamp motion))

/-- The frame is an end of some link. -/
def hasFrame (tree : FrameTree T) (frame : String) : Bool :=
  tree.links.contains frame || tree.parents.contains frame

end FrameTree

end CollisionWatch
