import CollisionWatch.Files.Disk
import CollisionWatch.Proofs.Runs
import Mathlib

/-!
# A file that was written is read back

Putting a file where no directory is leaves every way through the tree as it was (`walk_put`).  So
once a file is written its path leads to it, and its text is the one that was written
(`readText_of_write`).
-/

namespace CollisionWatch.Files

namespace Disk

variable {disk : Disk} {target steps : List String} {node : Node}

/-- What was put in a place is there. -/
theorem node?_put_self (h : target ≠ []) : (disk.put target node).node? target = some node := by
  simp [node?, put, h]

/-- Without the entries of another path a path leads where it led. -/
theorem lookup_filter_of_ne (h : steps ≠ target) (nodes : List (List String × Node)) :
    (nodes.filter (·.1 != target)).lookup steps = nodes.lookup steps := by
  induction nodes with
  | nil => rfl
  | cons entry nodes ih =>
    obtain ⟨key, old⟩ := entry
    by_cases hkey : key = target
    · have hother : (steps == key) = false := by simpa [hkey] using h
      rw [List.filter_cons_of_neg (by simpa using hkey), List.lookup_cons, hother, ih]
    · rw [List.filter_cons_of_pos (by simpa using hkey), List.lookup_cons, List.lookup_cons, ih]

/-- Every other place has what it had. -/
theorem node?_put_of_ne (h : steps ≠ target) :
    (disk.put target node).node? steps = disk.node? steps := by
  have hother : (steps == target) = false := by simpa using h
  simp only [node?, put, List.lookup_cons, hother, lookup_filter_of_ne h]

/-- Steps lead to a directory exactly if one is there. -/
theorem requireDirectory_eq_ok_iff :
    disk.requireDirectory steps = .ok () ↔ disk.node? steps = some .directory := by
  unfold requireDirectory
  cases disk.node? steps with
  | none => simp
  | some node => cases node <;> simp

/-- A file in no directory's place is in nobody's way. -/
theorem walk_put (hfile : disk.node? target ≠ some .directory) {here path : List String}
    (h : disk.walk here path = .ok steps) : (disk.put target node).walk here path = .ok steps := by
  induction path generalizing here with
  | nil => exact h
  | cons step path ih =>
    rw [walk] at h ⊢
    cases hhere : disk.requireDirectory here with
    | error e =>
      rw [hhere] at h
      cases h
    | ok =>
      have hdirectory := requireDirectory_eq_ok_iff.1 hhere
      have hne : here ≠ target := by
        rintro rfl
        exact hfile hdirectory
      have hsame : (disk.put target node).requireDirectory here = .ok () :=
        requireDirectory_eq_ok_iff.2 (by rw [node?_put_of_ne hne, hdirectory])
      rw [hhere] at h
      rw [hsame]
      by_cases hlong : longestStep < step.utf8ByteSize
      · rw [if_pos hlong] at h
        cases h
      · simp [hlong] at h ⊢
        exact ih h

/-- A path leads somewhere past directories, and to one if it says so. -/
theorem resolve_eq_ok {path : String} (h : disk.resolve path = .ok target) :
    checkPath path = .ok () ∧ disk.walk [] (Files.steps path) = .ok target ∧
      (ending path = .dot → disk.node? target = some .directory) := by
  unfold resolve at h
  obtain ⟨_, hcheck, h⟩ := exists_of_bind_eq_ok h
  obtain ⟨there, hwalk, h⟩ := exists_of_bind_eq_ok h
  by_cases hdot : ending path = .dot
  · simp only [if_pos hdot] at h
    obtain ⟨_, hdirectory, h⟩ := exists_of_bind_eq_ok h
    cases h
    exact ⟨hcheck, hwalk, fun _ => requireDirectory_eq_ok_iff.1 hdirectory⟩
  · simp only [if_neg hdot] at h
    cases h
    exact ⟨hcheck, hwalk, fun h => absurd h hdot⟩

/-- What it takes to write a file: a path that a file can have, directories before its last step, and
no directory there. -/
theorem write_eq_ok {path : String} {bytes : ByteArray} {after : Disk}
    (h : disk.write path bytes = .ok after) :
    checkPath path = .ok () ∧ ending path = .name ∧ ∃ target,
      disk.walk [] (Files.steps path) = .ok target ∧ disk.node? target ≠ some .directory ∧
      after = disk.put target (.file bytes) := by
  unfold write at h
  obtain ⟨_, -, h⟩ := exists_of_bind_eq_ok h
  by_cases hslash : ending path = .slash
  · simp only [if_pos hslash] at h
    obtain ⟨_, -, h⟩ := exists_of_bind_eq_ok h
    obtain ⟨_, -, h⟩ := exists_of_bind_eq_ok h
    cases h
  simp only [if_neg hslash] at h
  obtain ⟨target, hresolve, h⟩ := exists_of_bind_eq_ok h
  obtain ⟨hcheck, hwalk, hdot⟩ := resolve_eq_ok hresolve
  have hfile : disk.node? target ≠ some .directory := by
    intro hdirectory
    rw [hdirectory] at h
    cases h
  have hafter : after = disk.put target (.file bytes) := by
    split at h
    · cases h
    · exact (Except.ok.inj h).symm
  have hname : ending path = .name := by
    cases hending : ending path with
    | name => rfl
    | slash => exact absurd hending hslash
    | dot => exact absurd (hdot hending) hfile
  exact ⟨hcheck, hname, target, hwalk, hfile, hafter⟩

/-- The path of a file that was written leads to it. -/
theorem find_of_write {path : String} {bytes : ByteArray} {after : Disk}
    (h : disk.write path bytes = .ok after) : after.find path = .ok (.file bytes) := by
  obtain ⟨hcheck, hending, target, hwalk, hfile, rfl⟩ := write_eq_ok h
  have hne : target ≠ [] := by
    rintro rfl
    exact hfile rfl
  have hresolve : (disk.put target (.file bytes)).resolve path = .ok target := by
    simp only [resolve, hcheck, walk_put hfile hwalk, hending, reduceCtorEq, if_false]
    rfl
  rw [find, hresolve]
  simp only [hending, node?_put_self hne, bind, Except.bind, reduceCtorEq, if_false]
  rfl

/-- An action goes on with what the one before it left. -/
theorem run_bind_of_run {α β : Type} {x : StateM Disk α} {a : α} {before after : Disk}
    (h : x.run before = (a, after)) (next : α → StateM Disk β) :
    (x >>= next).run before = (next a).run after := by
  rw [StateT.run_bind, h]
  rfl

/-- A change that succeeds is made, and its success is told. -/
theorem run_apply_of_ok {change : Disk → Except FileError Disk} {before after : Disk}
    (h : change before = .ok after) : (apply change).run before = (.ok (), after) := by
  have hget : (get : StateM Disk Disk).run before = (before, before) := rfl
  unfold apply
  rw [run_bind_of_run hget, h]
  rfl

/-- A change that fails leaves the disk as it was. -/
theorem run_apply_of_error {change : Disk → Except FileError Disk} {before : Disk} {e : FileError}
    (h : change before = .error e) : (apply change).run before = (.error e, before) := by
  have hget : (get : StateM Disk Disk).run before = (before, before) := rfl
  unfold apply
  rw [run_bind_of_run hget, h]
  rfl

/-- A text is read back from its bytes. -/
theorem fromUTF8?_toUTF8 (text : String) : String.fromUTF8? text.toUTF8 = some text := by
  have hvalid : text.toUTF8.IsValidUTF8 := text.isValidUTF8
  rw [String.fromUTF8?, dif_pos hvalid]
  rfl

section

variable {path text : String} {after : Disk}

/-- After a file was written something has its name. -/
theorem pathExists_of_write (h : disk.write path text.toUTF8 = .ok after) :
    (pathExists path : StateM Disk Bool).run after = (true, after) := by
  have hkind :
      (FileStore.kind? path : StateM Disk (Option NodeKind)).run after = (some .file, after) := by
    change ((after.find path).toOption.map Node.kind, after) = _
    rw [find_of_write h]
    rfl
  change ((FileStore.kind? path : StateM Disk (Option NodeKind)).run after).map Option.isSome id = _
  rw [hkind]
  rfl

/-- **The text of a file that was written is the one that was written.** -/
theorem readText_of_write (h : disk.write path text.toUTF8 = .ok after) :
    (readText path : StateM Disk (Except FileError String)).run after = (.ok text, after) := by
  have hbytes : after.readBytes path = .ok text.toUTF8 := by
    rw [readBytes, find_of_write h]
    rfl
  have hread : (FileStore.readBytes path : StateM Disk (Except FileError ByteArray)).run after =
      (.ok text.toUTF8, after) := by
    change (after.readBytes path, after) = _
    rw [hbytes]
  rw [readText, run_bind_of_run hread]
  dsimp only
  rw [fromUTF8?_toUTF8]
  rfl

end

end Disk

end CollisionWatch.Files
