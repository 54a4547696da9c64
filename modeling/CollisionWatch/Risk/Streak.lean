/-!
# Streaks of risky clouds

One noisy cloud must not stop the vehicle.  A `Streak` counts the risky clouds in a row; the risk is
persistent from a threshold on.  The count stays at the largest word once it gets there, and a
persistent risk never looks cleared because of it.
-/

namespace CollisionWatch

/-- A run of risky clouds. -/
structure Streak where
  /-- How many of them make the risk persistent. -/
  threshold : UInt32
  /-- How many there are. -/
  count : UInt32 := 0
  deriving Repr, DecidableEq

namespace Streak

/-- The largest word. -/
def most : UInt32 := 4294967295

/-- The streak is long enough. -/
def isPersistent (s : Streak) : Bool := s.threshold ≤ s.count

/-- No streak any more. -/
def reset (s : Streak) : Streak := { s with count := 0 }

/-- The streak after one more cloud. -/
def record (s : Streak) (risky : Bool) : Streak :=
  if risky then { s with count := if s.count = most then most else s.count + 1 } else s.reset

/-- The streak after `n` more risky clouds. -/
def recordRisky (s : Streak) (n : Nat) : Streak :=
  { s with count := (min (s.count.toNat + n) most.toNat).toUInt32 }

/-- No count exceeds the largest word. -/
theorem count_toNat_le (s : Streak) : s.count.toNat ≤ most.toNat :=
  Nat.le_of_lt_succ s.count.toNat_lt

/-- One more risky cloud counts, up to the largest word. -/
theorem toNat_count_record_true (s : Streak) :
    (s.record true).count.toNat = min (s.count.toNat + 1) most.toNat := by
  have hle := s.count_toNat_le
  have hmost : most.toNat = 4294967295 := rfl
  simp only [record, if_true]
  split
  · rename_i h
    rw [h, hmost]
    omega
  · rename_i h
    have hne : s.count.toNat ≠ most.toNat := fun e => h (UInt32.toNat_inj.1 e)
    rw [UInt32.toNat_add]
    have : (1 : UInt32).toNat = 1 := rfl
    omega

/-- Recording `n` risky clouds at once is recording them one by one. -/
theorem recordRisky_succ (s : Streak) (n : Nat) :
    s.recordRisky (n + 1) = (s.recordRisky n).record true := by
  have hmost : most.toNat = 4294967295 := rfl
  have hword : ∀ m : Nat, (min m most.toNat).toUInt32.toNat = min m most.toNat := fun m => by
    rw [Nat.toUInt32, UInt32.toNat_ofNat']
    omega
  have hcount : (s.recordRisky (n + 1)).count = ((s.recordRisky n).record true).count := by
    apply UInt32.toNat_inj.1
    rw [toNat_count_record_true]
    simp only [recordRisky, hword]
    omega
  have hthreshold : (s.recordRisky (n + 1)).threshold = ((s.recordRisky n).record true).threshold := by
    simp [record, recordRisky]
  cases h1 : s.recordRisky (n + 1)
  cases h2 : (s.recordRisky n).record true
  simp_all

end Streak

end CollisionWatch
