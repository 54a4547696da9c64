import CollisionWatch.Proofs.Files.Disk
import CollisionWatch.Proofs.Settings.Document
import CollisionWatch.Settings.Storage

/-!
# Settings saved and loaded

Main statement: on a disk that takes the file, settings whose texts can be written are saved, and
loading them gives what was saved with the variables of the environment on top; settings with a text
that cannot be written crash (`loads_saved`).  The variables touch four settings, each of which stays
as it was where its variable is missing or cannot be read (`IsOverridden`).
-/

namespace CollisionWatch.Settings

open Files (Disk)

/-- All texts of the settings can be written: none has too many quotes in a row. -/
def IsWritable (s : Settings) : Prop := ∀ text ∈ s.texts, Toml.isWritable text.toList = true

/-- Whether settings can be written is a question about their texts, and can be decided. -/
instance (s : Settings) : Decidable s.IsWritable :=
  inferInstanceAs (Decidable (∀ text ∈ s.texts, Toml.isWritable text.toList = true))

/-- The disk takes a file: the directories above its path can be made, and then it can be written. -/
def Accepts (disk : Disk) (path : String) : Prop :=
  ∃ made : Disk,
    (match Files.parent? path with
      | some directory => Files.makeDirectories directory
      | none => pure (.ok ()) : StateM Disk (Except Files.FileError Unit)).run disk = (.ok (), made) ∧
    ∀ bytes, ∃ after, made.write path bytes = .ok after

/-! ## The environment -/

/-- The variables that override settings. -/
def variableNames : List String :=
  ["GUARDIAN_VEHICLE_FRAME", "GUARDIAN_MONITOR_INTERVAL", "GUARDIAN_MIN_POINTS", "GUARDIAN_MIN_FRAMES"]

/-- The word of a variable. -/
def wordOf? (env : Environment) (name : String) : Option Nat :=
  (env name).bind (Decimal.readNat? UInt32.size)

/-- Settings with the environment on top: four of them come from variables that can be read, all
others and the rest of the four are as before. -/
structure IsOverridden (before : Settings) (env : Environment) (after : Settings) : Prop where
  /-- No variable is about the topic. -/
  topic : after.topic = before.topic
  /-- No variable is about the mounts. -/
  mounts : after.mounts = before.mounts
  /-- No variable is about the bounds of danger. -/
  bounds : after.thresholds.body = before.thresholds.body ∧
    after.thresholds.region = before.thresholds.region ∧
    after.thresholds.heightMin = before.thresholds.heightMin ∧
    after.thresholds.heightMax = before.thresholds.heightMax
  /-- The vehicle is any text. -/
  vehicle : after.vehicle = (env "GUARDIAN_VEHICLE_FRAME").getD before.vehicle
  /-- The interval is a number. -/
  interval : ∀ x ∈ (env "GUARDIAN_MONITOR_INTERVAL").bind Decimal.readDouble?, after.interval = x
  /-- Without a number the interval stays. -/
  keepsInterval : (env "GUARDIAN_MONITOR_INTERVAL").bind Decimal.readDouble? = none →
    after.interval = before.interval
  /-- The least number of points is a word. -/
  minPoints : ∀ n ∈ wordOf? env "GUARDIAN_MIN_POINTS", after.thresholds.minPoints.toNat = n
  /-- Without a word the least number of points stays. -/
  keepsMinPoints : wordOf? env "GUARDIAN_MIN_POINTS" = none →
    after.thresholds.minPoints = before.thresholds.minPoints
  /-- The least number of frames is a word. -/
  minFrames : ∀ n ∈ wordOf? env "GUARDIAN_MIN_FRAMES", after.thresholds.minFrames.toNat = n
  /-- Without a word the least number of frames stays. -/
  keepsMinFrames : wordOf? env "GUARDIAN_MIN_FRAMES" = none →
    after.thresholds.minFrames = before.thresholds.minFrames

/-- A number that is read is below its bound. -/
theorem lt_of_readNat? {bound n : Nat} {text : String} (h : Decimal.readNat? bound text = some n) :
    n < bound := by
  unfold Decimal.readNat? at h
  extract_lets digits value at h
  split_ifs at h with hdigits hlt
  rw [← Option.some.inj h]
  exact hlt

/-- A word that is read from a variable is the number that stands there. -/
theorem toNat_of_wordOf? {env : Environment} {name : String} {n : Nat} (h : wordOf? env name = some n) :
    n.toUInt32.toNat = n := by
  obtain ⟨text, -, hread⟩ := Option.bind_eq_some_iff.1 h
  exact Nat.mod_eq_of_lt (lt_of_readNat? hread)

/-- What `override` makes of settings is what the variables say. -/
theorem isOverridden_override (s : Settings) (env : Environment) :
    IsOverridden s env (s.override env) := by
  have hword : ∀ name (before : UInt32), ∀ n ∈ wordOf? env name,
      (((env name).bind (Decimal.readNat? UInt32.size)).map Nat.toUInt32 |>.getD before).toNat = n := by
    intro name before n hn
    have hread : (env name).bind (Decimal.readNat? UInt32.size) = some n := hn
    rw [hread]
    exact toNat_of_wordOf? hn
  have hkeeps : ∀ name (before : UInt32), wordOf? env name = none →
      (((env name).bind (Decimal.readNat? UInt32.size)).map Nat.toUInt32).getD before = before := by
    intro name before hnone
    have hread : (env name).bind (Decimal.readNat? UInt32.size) = none := hnone
    rw [hread]
    rfl
  exact {
    topic := rfl
    mounts := rfl
    bounds := ⟨rfl, rfl, rfl, rfl⟩
    vehicle := rfl
    interval := fun x hx => by rw [override, Option.mem_def.1 hx, Option.getD_some]
    keepsInterval := fun h => by rw [override, h, Option.getD_none]
    minPoints := hword _ _
    keepsMinPoints := hkeeps _ _
    minFrames := hword _ _
    keepsMinFrames := hkeeps _ _ }

/-- Without variables the settings stay as they are. -/
theorem override_of_unset {env : Environment} (h : ∀ name ∈ variableNames, env name = none)
    (s : Settings) : s.override env = s := by
  simp only [variableNames, List.forall_mem_cons] at h
  simp [override, h]

/-! ## Saving and loading -/

/-- What follows once the directories are made. -/
theorem run_save {disk made : Disk} {path : String}
    (hmade : (match Files.parent? path with
      | some directory => Files.makeDirectories directory
      | none => pure (.ok ()) : StateM Disk (Except Files.FileError Unit)).run disk = (.ok (), made))
    (s : Settings) :
    (s.save path : StateM Disk _).run disk =
      match s.document with
      | .error c => (.error c, made)
      | .ok document =>
        match made.write path document.toUTF8 with
        | .error e => (.ok (.error (.unwritable path e)), made)
        | .ok after => (.ok (.ok ()), after) := by
  unfold save
  cases hparent : Files.parent? path
  all_goals
    rw [hparent] at hmade
    dsimp only at hmade ⊢
    rw [Disk.run_bind_of_run hmade]
    cases hdocument : s.document with
    | error c => rfl
    | ok document =>
      dsimp only
      cases hafter : made.write path document.toUTF8 with
      | error e =>
        have hwrite : (Files.FileStore.writeText path document : StateM Disk _).run made =
          (.error e, made) := Disk.run_apply_of_error hafter
        rw [Disk.run_bind_of_run hwrite]
        rfl
      | ok after =>
        have hwrite : (Files.FileStore.writeText path document : StateM Disk _).run made =
          (.ok (), after) := Disk.run_apply_of_ok hafter
        rw [Disk.run_bind_of_run hwrite]
        rfl

/-- Settings whose document was written to a path are loaded from there, with the variables over
them. -/
theorem load?_of_write {s : Settings} (h : s.IsLegible) {made after : Disk} {path : String}
    (hwrite : made.write path (String.ofList s.documentChars).toUTF8 = .ok after) (env : Environment) :
    (load? path env : StateM Disk _).run after = (.ok (some (s.override env)), after) := by
  rw [load?, Disk.run_bind_of_run (Disk.pathExists_of_write hwrite), if_pos rfl,
    Disk.run_bind_of_run (Disk.readText_of_write hwrite)]
  dsimp only
  rw [ofDocument?_documentChars h]
  rfl

/-- Settings that can be written are saved where the disk has a place for them. -/
theorem save_of_isWritable {s : Settings} (h : s.IsWritable) {disk : Disk} {path : String}
    (hdisk : Accepts disk path) :
    ∃ made after : Disk, made.write path (String.ofList s.documentChars).toUTF8 = .ok after ∧
      (s.save path : StateM Disk _).run disk = (.ok (.ok ()), after) := by
  obtain ⟨made, hmade, hwrite⟩ := hdisk
  obtain ⟨after, hafter⟩ := hwrite (String.ofList s.documentChars).toUTF8
  have hdocument : s.document = .ok (String.ofList s.documentChars) := if_pos (List.all_eq_true.2 h)
  refine ⟨made, after, hafter, ?_⟩
  rw [run_save hmade, hdocument]
  dsimp only
  rw [hafter]

/-- Settings with too long a run of quotes are not saved; writing them crashes. -/
theorem save_of_not_isWritable {s : Settings} (h : ¬ s.IsWritable) {disk : Disk} {path : String}
    (hdisk : Accepts disk path) :
    ((s.save path : StateM Disk _).run disk).1 = .error .quoteRun := by
  obtain ⟨made, hmade, -⟩ := hdisk
  have hdocument : s.document = .error .quoteRun := if_neg fun hall => h (List.all_eq_true.1 hall)
  rw [run_save hmade, hdocument]

/-- **What is saved is loaded.** -/
theorem loads_saved {s : Settings} (h : s.IsLegible) {disk : Disk} {path : String}
    (hdisk : Accepts disk path) :
    (s.IsWritable → ∃ after : Disk,
      (s.save path : StateM Disk _).run disk = (.ok (.ok ()), after) ∧
        ∀ env, (load? path env : StateM Disk _).run after = (.ok (some (s.override env)), after)) ∧
    (¬ s.IsWritable → ((s.save path : StateM Disk _).run disk).1 = .error .quoteRun) ∧
    ∀ env, IsOverridden s env (s.override env) ∧
      ((∀ name ∈ variableNames, env name = none) → s.override env = s) := by
  refine ⟨fun hwritable => ?_, fun hunwritable => save_of_not_isWritable hunwritable hdisk, fun env =>
    ⟨isOverridden_override s env, fun hunset => override_of_unset hunset s⟩⟩
  obtain ⟨made, after, hafter, hsave⟩ := save_of_isWritable hwritable hdisk
  exact ⟨after, hsave, load?_of_write h hafter⟩

/-! ## Two files -/

/-- The usual thresholds have legible bounds. -/
theorem isLegible_usualThresholds : ({} : Thresholds).IsLegible where
  body := ⟨by decide +kernel, by decide +kernel, by decide +kernel⟩
  region := ⟨by decide +kernel, by decide +kernel, by decide +kernel⟩
  heightMin := by decide +kernel
  heightMax := by decide +kernel

/-- A name without directories is taken by an empty disk. -/
theorem accepts_empty : Accepts {} "config.toml" := ⟨{}, rfl, fun _ => ⟨_, rfl⟩⟩

/-- Settings that no watch starts with, full of quotes and infinities. -/
def quirky : Settings where
  vehicle := "it's \"here\"\n"
  topic := ""
  interval := -Decimal.infinity
  mounts := [⟨"here", "here", ⟨-0.0, 0.1, 1.0 / 0.0⟩, .identity⟩]

/-- The quirky settings have legible floats only. -/
theorem isLegible_quirky : quirky.IsLegible where
  interval := by decide +kernel
  thresholds := isLegible_usualThresholds
  mounts m hm := by
    rw [List.mem_singleton.1 hm]
    exact ⟨by decide +kernel, by decide +kernel⟩

/-- All of it is saved, and loaded as it was. -/
theorem loads_saved_quirky : quirky.IsLegible ∧ Accepts {} "config.toml" ∧
    ∃ after : Disk, (quirky.save "config.toml" : StateM Disk _).run {} = (.ok (.ok ()), after) ∧
      ∀ env, (load? "config.toml" env : StateM Disk _).run after =
        (.ok (some (quirky.override env)), after) :=
  ⟨isLegible_quirky, accepts_empty, (loads_saved isLegible_quirky accepts_empty).1 (by decide)⟩

/-- Settings with a vehicle of two hundred and fifty-six quotes. -/
def overquoted : Settings := { vehicle := String.ofList (List.replicate 256 '\'') }

/-- Every number of these settings can be read back and the disk takes the file, but saving them
crashes. -/
theorem overquoted_unsaved :
    overquoted.IsLegible ∧ Accepts {} "config.toml" ∧
      ((overquoted.save "config.toml" : StateM Disk _).run {}).1 = .error .quoteRun := by
  have hunwritable : ¬ overquoted.IsWritable := by decide +kernel
  exact ⟨⟨by decide +kernel, isLegible_usualThresholds, fun m hm => absurd hm List.not_mem_nil⟩,
    accepts_empty, save_of_not_isWritable hunwritable accepts_empty⟩

end CollisionWatch.Settings
