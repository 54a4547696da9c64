import CollisionWatch.Crash
import CollisionWatch.FrameTree.Sample

/-!
# Histories

The motions of a link that changes over time are kept in the order of their stamps; of two with the
same stamp the one recorded later comes later.  `record` puts a new sample in its place and forgets
the oldest ones beyond the length of the history.  `at?` looks a time up: between two stamps the
motion is blended, before the first stamp and after the last one the nearest sample stands in, if it
is within the tolerance.

The samples stand in a ring of slots, so that forgetting the oldest one moves none of the others.  A
search looks at one side of the ring's seam only, and finds the same place on either layout as long
as the stamps are in order.  A stamp that is not a number is in no order with any other: then the
place depends on where the seam lies, which is why the ring is part of a history.
-/

namespace CollisionWatch

/-- The samples of a link. -/
structure History (T : Type) where
  /-- The samples, the oldest first. -/
  samples : List (Sample T) := []
  /-- How many slots the ring has. -/
  slots : Nat := 0
  /-- The slot of the oldest sample. -/
  start : Nat := 0

namespace History

variable {T : Type}

/-- How many slots there are from the oldest sample to the seam. -/
def reach (h : History T) : Nat := h.slots - h.start

/-- Where the samples that satisfy `p` end: beyond the seam if the first sample there satisfies it,
before the seam otherwise. -/
def boundary (h : History T) (p : Sample T → Bool) : Nat :=
  let before := h.samples.take h.reach
  let beyond := h.samples.drop h.reach
  if beyond.head?.any p then before.length + CollisionWatch.boundary p beyond
  else CollisionWatch.boundary p before

/-- The fewest slots of a ring that holds anything. -/
def fewestSlots : Nat := 4

/-- The history with room for one more sample: a full ring gets twice its slots, and the smaller of
its two sides moves into the new ones. -/
def withRoom (h : History T) : History T :=
  if h.samples.length < h.slots then h
  else
    let slots := max fewestSlots (2 * h.slots)
    { h with
      slots
      start := if h.start = 0 ∨ h.start < h.reach then h.start else slots - h.reach }

/-- More room does not change the samples. -/
@[simp]
theorem samples_withRoom (h : History T) : h.withRoom.samples = h.samples := by
  unfold withRoom
  split <;> rfl

/-- The history with a sample at a place; the shorter part on either side makes way. -/
def insert (h : History T) (place : Nat) (sample : Sample T) : History T :=
  let h := h.withRoom
  { h with
    samples := h.samples.take place ++ sample :: h.samples.drop place
    start :=
      if h.samples.length - place < place then h.start
      else (h.start + h.slots - 1) % h.slots }

/-- A sample is put in its place, between the ones before it and behind it. -/
@[simp]
theorem samples_insert (h : History T) (place : Nat) (sample : Sample T) :
    (h.insert place sample).samples = h.samples.take place ++ sample :: h.samples.drop place := by
  simp [insert]

/-- The history without its oldest samples. -/
def forget (h : History T) (count : Nat) : History T :=
  { h with samples := h.samples.drop count, start := (h.start + count) % h.slots }

/-- The oldest samples are forgotten. -/
@[simp]
theorem samples_forget (h : History T) (count : Nat) :
    (h.forget count).samples = h.samples.drop count := rfl

/-- The history with a new sample in its place, and only the last `length` of them. -/
def record (h : History T) (length : Nat) (stamp : Float) (motion : T) : History T :=
  let h := h.insert (h.boundary fun s => s.stamp ≤ stamp) ⟨stamp, motion⟩
  h.forget (h.samples.length - length)

/-- The motion at a time, if the samples reach that far. -/
def at? [Motion T] (h : History T) (time tolerance : Float) : Except Crash (Option T) :=
  if !time.isFinite then .ok none
  else
    match h.samples.head?, h.samples.getLast? with
    | some first, some last =>
      if time ≤ first.stamp then .ok (first.within (first.stamp - time) tolerance)
      else if last.stamp ≤ time then .ok (last.within (time - last.stamp) tolerance)
      else
        match h.boundary fun s => s.stamp ≤ time with
        | 0 => .error .disorderedSamples
        | i + 1 =>
          match h.samples[i]?, h.samples[i + 1]? with
          | some before, some after => .ok (some (before.between after time))
          | _, _ => .error .disorderedSamples
    | _, _ => .ok none

end History

end CollisionWatch
