import CollisionWatch.Proofs.Decimal.Precision
import CollisionWatch.Proofs.Json.Record
import CollisionWatch.Proofs.Toml.Table
import CollisionWatch.Settings.Document

/-!
# The document of the settings, written and read back

The document is a table of plain entries, one section for the thresholds with one for each box below
it, and one section for each mount.  Main statement: what is read from it are the settings it was
written from (`ofDocument?_documentChars`), with a list of mounts that is empty if there were none.
-/

namespace CollisionWatch

open Decimal (widen)
open Toml (Value Section Node Nodes plainEntry plainNode plainSection entryLine arrayChars floatChars)

/-! ## Floats that can be read back -/

/-- A single-precision float can be read back. -/
structure IsLegibleSingle (x : Float32) : Prop where
  /-- It is a number, possibly an infinite one. -/
  isNumber : x.isNaN = false
  /-- The numeral of the double of its value, if it has one, denotes that double. -/
  read : ∀ n ∈ Toml.floatStyle.numeral (.ofDouble (widen x)), n.toDouble = widen x

/-- Whether a single is legible can be computed. -/
instance (x : Float32) : Decidable (IsLegibleSingle x) :=
  decidable_of_iff (x.isNaN = false ∧
      ∀ n ∈ Toml.floatStyle.numeral (.ofDouble (widen x)), n.toDouble = widen x)
    ⟨fun h => ⟨h.1, h.2⟩, fun h => ⟨h.isNumber, h.read⟩⟩

/-- The distances of a box can be read back. -/
structure Extents.IsLegible (e : Extents) : Prop where
  forward : IsLegibleSingle e.forward
  backward : IsLegibleSingle e.backward
  side : IsLegibleSingle e.side

/-- The bounds of thresholds can be read back. -/
structure Thresholds.IsLegible (t : Thresholds) : Prop where
  body : t.body.IsLegible
  region : t.region.IsLegible
  heightMin : IsLegibleSingle t.heightMin
  heightMax : IsLegibleSingle t.heightMax

/-- The place of a mount can be read back. -/
structure Mount.IsLegible (m : Mount) : Prop where
  displacement : ∀ x ∈ [m.displacement.x, m.displacement.y, m.displacement.z], IsLegibleSingle x
  rotation : ∀ x ∈ [m.rotation.w, m.rotation.x, m.rotation.y, m.rotation.z], IsLegibleSingle x

/-- The numbers of the settings can be read back. -/
structure Settings.IsLegible (s : Settings) : Prop where
  interval : Toml.IsLegible s.interval
  thresholds : s.thresholds.IsLegible
  mounts : ∀ m ∈ s.mounts, m.IsLegible

/-- What is legible as a single is legible as the double that is written for it. -/
theorem IsLegibleSingle.widen {x : Float32} (h : IsLegibleSingle x) : Toml.IsLegible (widen x) :=
  ⟨by rw [Decimal.isNaN_widen, h.isNumber], h.read⟩

namespace Settings

/-! ## What is written -/

/-- A single-precision float as a value. -/
def singleValue (x : Float32) : Value := .float (widen x)

/-- A word as a value. -/
def wordValue (n : UInt32) : Value := .integer n.toNat

/-- The entries of a box. -/
def extentsFields (e : Extents) : List (String × Value) :=
  [("forward", singleValue e.forward), ("backward", singleValue e.backward),
    ("side", singleValue e.side)]

/-- The entries of thresholds. -/
def thresholdsFields (t : Thresholds) : List (String × Value) :=
  [("height_min", singleValue t.heightMin), ("height_max", singleValue t.heightMax),
    ("min_points_in_roi_to_trigger", wordValue t.minPoints),
    ("min_consecutive_frames_to_trigger", wordValue t.minFrames)]

/-- The entries of a mount. -/
def mountFields (m : Mount) : List (String × Value) :=
  let v := m.displacement
  let q := m.rotation
  [("parent", .string m.parent), ("child", .string m.child),
    ("translation", .array ([v.x, v.y, v.z].map singleValue)),
    ("rotation", .array ([q.w, q.x, q.y, q.z].map singleValue))]

/-- The entries before any header. -/
def rootFields (s : Settings) : List (String × Value) :=
  [("vehicle_frame_id", .string s.vehicle), ("collision_warning_topic", .string s.topic),
    ("monitor_interval_secs", .float s.interval)] ++
    if s.mounts.isEmpty then [("static_transforms", .array [])] else []

/-- The sections of thresholds. -/
def thresholdsSections (t : Thresholds) : List Section :=
  [plainSection .table ["guardian"] (thresholdsFields t),
    plainSection .table ["guardian", "ego_box"] (extentsFields t.body),
    plainSection .table ["guardian", "roi"] (extentsFields t.region)]

/-- The sections of mounts. -/
def mountsSections (mounts : List Mount) : List Section :=
  (mounts.map mountFields).map (plainSection .oneOfMany ["static_transforms"])

/-! ## Reading the lines -/

/-- A legible single is written as the scalar that it is read as. -/
theorem isScalar_singleChars {x : Float32} (h : IsLegibleSingle x) :
    Toml.IsScalar (singleChars x) (singleValue x) :=
  Toml.isScalar_floatChars h.widen

/-- A written text is read as one. -/
theorem isScalar_textChars (text : String) : Toml.IsScalar (textChars text) (.string text) := by
  have hscalar := Toml.isScalar_stringChars text.toList
  rwa [String.ofList_toList] at hscalar

/-- A written word is read as its number. -/
theorem isScalar_word (n : UInt32) :
    Toml.IsScalar (Decimal.digitsOfNat n.toNat) (wordValue n) := by
  refine Toml.isScalar_digitsOfNat ?_
  have hlt := n.toNat_lt
  simp only [Toml.largestInteger]
  omega

/-- The statements of entries. -/
def entryStatements (fields : List (String × Value)) : List Toml.Statement :=
  (fields.map plainEntry).map .entry

/-- The line of an entry with a scalar is read as that entry. -/
theorem isRead_entryLine (key : String) (hkey : Toml.IsKey key) {value : List Char} {v : Value}
    (h : Toml.IsScalar value v) : Toml.IsRead (entryLine key value) (entryStatements [(key, v)]) :=
  Toml.IsRead.entryLine hkey h.isValue

/-- The line of an entry with several singles is read as an entry with their array. -/
theorem isRead_singlesLine (key : String) (hkey : Toml.IsKey key) {xs : List Float32}
    (h : ∀ x ∈ xs, IsLegibleSingle x) :
    Toml.IsRead (entryLine key (arrayChars (xs.map singleChars)))
      (entryStatements [(key, .array (xs.map singleValue))]) :=
  Toml.IsRead.entryLine hkey (Toml.isValue_arrayChars fun x hx => isScalar_singleChars (h x hx))

/-- The lines of extents are read as their fields. -/
theorem isRead_extentsLines {e : Extents} (h : e.IsLegible) :
    Toml.IsRead (extentsLines e) (entryStatements (extentsFields e)) :=
  ((isRead_entryLine "forward" (by decide) (isScalar_singleChars h.forward)).append
    (isRead_entryLine "backward" (by decide) (isScalar_singleChars h.backward))).append
    (isRead_entryLine "side" (by decide) (isScalar_singleChars h.side))

/-- The lines of thresholds are read as their sections. -/
theorem isRead_thresholdsLines {t : Thresholds} (h : t.IsLegible) :
    Toml.IsRead (thresholdsLines t) ((thresholdsSections t).flatMap Section.statements) := by
  have hheader := Toml.IsRead.tableLine ["guardian"] (by decide) (by decide) (by decide)
  have hbody := Toml.IsRead.tableLine ["guardian", "ego_box"] (by decide) (by decide) (by decide)
  have hregion := Toml.IsRead.tableLine ["guardian", "roi"] (by decide) (by decide) (by decide)
  have hmin := isRead_entryLine "height_min" (by decide) (isScalar_singleChars h.heightMin)
  have hmax := isRead_entryLine "height_max" (by decide) (isScalar_singleChars h.heightMax)
  have hpoints := isRead_entryLine "min_points_in_roi_to_trigger" (by decide)
    (isScalar_word t.minPoints)
  have hframes := isRead_entryLine "min_consecutive_frames_to_trigger" (by decide)
    (isScalar_word t.minFrames)
  exact ((((((((hheader.append hmin).append hmax).append hpoints).append hframes).append hbody).append
    (isRead_extentsLines h.body)).append hregion).append (isRead_extentsLines h.region))

/-- The lines of a mount are read as one more table of that name. -/
theorem isRead_mountLines {m : Mount} (h : m.IsLegible) :
    Toml.IsRead (mountLines m)
      (plainSection .oneOfMany ["static_transforms"] (mountFields m)).statements := by
  have hheader := Toml.IsRead.oneOfManyLine ["static_transforms"] (by decide) (by decide) (by decide)
  have hparent := isRead_entryLine "parent" (by decide) (isScalar_textChars m.parent)
  have hchild := isRead_entryLine "child" (by decide) (isScalar_textChars m.child)
  have htranslation := isRead_singlesLine "translation" (by decide) h.displacement
  have hrotation := isRead_singlesLine "rotation" (by decide) h.rotation
  exact (((hheader.append hparent).append hchild).append htranslation).append hrotation

/-- The lines in front of all sections are read as the fields of the root. -/
theorem isRead_rootLines {s : Settings} (h : Toml.IsLegible s.interval) :
    Toml.IsRead (entryLine "vehicle_frame_id" (textChars s.vehicle) ++
        entryLine "collision_warning_topic" (textChars s.topic) ++
        entryLine "monitor_interval_secs" (floatChars s.interval) ++
        (if s.mounts.isEmpty then entryLine "static_transforms" (arrayChars []) else []))
      (entryStatements (rootFields s)) := by
  have hvehicle := isRead_entryLine "vehicle_frame_id" (by decide) (isScalar_textChars s.vehicle)
  have htopic := isRead_entryLine "collision_warning_topic" (by decide) (isScalar_textChars s.topic)
  have hinterval := isRead_entryLine "monitor_interval_secs" (by decide) (Toml.isScalar_floatChars h)
  have hlines := (hvehicle.append htopic).append hinterval
  rw [rootFields]
  split_ifs
  · exact hlines.append (@isRead_singlesLine "static_transforms" (by decide) [] (by simp))
  · exact hlines.append .nil

/-- **The document is read as its entries and sections.** -/
theorem isRead_documentChars {s : Settings} (h : s.IsLegible) :
    Toml.IsRead s.documentChars (entryStatements (rootFields s) ++
      (thresholdsSections s.thresholds ++ mountsSections s.mounts).flatMap Section.statements) := by
  have hroot := isRead_rootLines h.interval
  have hthresholds := isRead_thresholdsLines h.thresholds
  have hmounts := Toml.IsRead.flatMap fun m hm => isRead_mountLines (h.mounts m hm)
  have hstatements : (mountsSections s.mounts).flatMap Section.statements = s.mounts.flatMap fun m =>
      (plainSection .oneOfMany ["static_transforms"] (mountFields m)).statements := by
    simp [mountsSections, List.flatMap_map]
  rw [List.flatMap_append, hstatements, ← List.append_assoc]
  exact (hroot.append hthresholds).append hmounts

/-! ## The tables -/

/-- The table of a box. -/
def extentsNode (e : Extents) : Node := .table .written ((extentsFields e).map plainNode)

/-- The table of thresholds. -/
def thresholdsNode (t : Thresholds) : Node :=
  .table .written (Toml.assign (Toml.assign ((thresholdsFields t).map plainNode) "ego_box"
    (extentsNode t.body)) "roi" (extentsNode t.region))

/-- Extents have no field twice. -/
theorem nodup_extentsFields (e : Extents) : ((extentsFields e).map Prod.fst).Nodup := by
  simp [extentsFields]

/-- Thresholds have no field twice. -/
theorem nodup_thresholdsFields (t : Thresholds) : ((thresholdsFields t).map Prod.fst).Nodup := by
  simp [thresholdsFields]

/-- A mount has no field twice. -/
theorem nodup_mountFields (m : Mount) : ((mountFields m).map Prod.fst).Nodup := by
  simp [mountFields]

/-- The root has no two fields of one name. -/
theorem nodup_rootFields (s : Settings) : ((rootFields s).map Prod.fst).Nodup := by
  rw [rootFields]
  split_ifs <;> simp

/-- The thresholds get one table, with a table for each box inside. -/
theorem extend_thresholdsSections (t : Thresholds) {nodes : Nodes}
    (hnew : nodes.lookup "guardian" = none) :
    Toml.extend nodes (thresholdsSections t) =
      some (Toml.assign nodes "guardian" (thresholdsNode t)) := by
  have hthresholds := Toml.update_newTable (nodup_thresholdsFields t) hnew ["guardian"]
  have hbody := Toml.update_belowTable (nodup_extentsFields t.body)
    (show ((thresholdsFields t).map plainNode).lookup "ego_box" = none from rfl)
    ["guardian", "ego_box"] nodes "guardian" .written
  have hregion := Toml.update_belowTable (nodup_extentsFields t.region)
    (show (Toml.assign ((thresholdsFields t).map plainNode) "ego_box" (extentsNode t.body)).lookup "roi" =
      none from rfl) ["guardian", "roi"] nodes "guardian" .written
  rw [thresholdsSections, Toml.extend_cons hthresholds, Toml.extend_cons hbody]
  exact Toml.extend_cons hregion []

/-- The tables of the settings before the mounts come. -/
def rootNodes (s : Settings) : Nodes :=
  Toml.assign ((rootFields s).map plainNode) "guardian" (thresholdsNode s.thresholds)

/-- The mounts get a table each, behind a list that is there already if it is empty. -/
theorem exists_extend_mountsSections (s : Settings) :
    ∃ nodes : Nodes, Toml.extend (rootNodes s) (mountsSections s.mounts) = some nodes ∧
      (∀ name ≠ "static_transforms", nodes.lookup name = (rootNodes s).lookup name) ∧
      (nodes.lookup "static_transforms").map Node.toValue =
        some (.array ((s.mounts.map mountFields).map .table)) := by
  by_cases hmounts : s.mounts = []
  · refine ⟨_, by rw [hmounts]; rfl, fun _ _ => rfl, ?_⟩
    rw [rootNodes, Toml.lookup_assign, if_neg (by decide), Toml.lookup_plainNode, rootFields, hmounts]
    rfl
  · have hnodup : ∀ table ∈ s.mounts.map mountFields, (table.map Prod.fst).Nodup := by
      intro table htable
      obtain ⟨m, -, rfl⟩ := List.mem_map.1 htable
      exact nodup_mountFields m
    have hnew : (rootNodes s).lookup "static_transforms" = none := by
      rw [rootNodes, Toml.lookup_assign, if_neg (by decide), Toml.lookup_plainNode, rootFields,
        if_neg (by simpa using hmounts)]
      rfl
    refine ⟨_, Toml.extend_newTables hnodup (by simpa using hmounts) hnew, fun name hname => ?_, ?_⟩
    · rw [Toml.lookup_assign, if_neg hname]
    · rw [Toml.lookup_assign, if_pos rfl, Option.map_some, Toml.toValue_tables]

/-- What the document comes down to. -/
theorem exists_assemble (s : Settings) :
    ∃ nodes : Nodes, Toml.assemble ((rootFields s).map plainEntry)
        (thresholdsSections s.thresholds ++ mountsSections s.mounts) = some (Toml.nodesToEntries nodes) ∧
      nodes.lookup "vehicle_frame_id" = some (.value (.string s.vehicle)) ∧
      nodes.lookup "collision_warning_topic" = some (.value (.string s.topic)) ∧
      nodes.lookup "monitor_interval_secs" = some (.value (.float s.interval)) ∧
      nodes.lookup "guardian" = some (thresholdsNode s.thresholds) ∧
      (nodes.lookup "static_transforms").map Node.toValue =
        some (.array ((s.mounts.map mountFields).map .table)) := by
  have hroot := Toml.insertAll_plainEntry (nodup_rootFields s)
  have hguardian : ((rootFields s).map plainNode).lookup "guardian" = none := by
    rw [Toml.lookup_plainNode, rootFields]
    split_ifs <;> rfl
  have hthresholds := extend_thresholdsSections s.thresholds hguardian
  obtain ⟨nodes, hnodes, hother, htables⟩ := exists_extend_mountsSections s
  have hextend := (Toml.extend_append hthresholds (mountsSections s.mounts)).trans hnodes
  refine ⟨nodes, ?_, ?_, ?_, ?_, ?_, htables⟩
  · exact Toml.assemble_of_extend hroot hextend
  all_goals
    rw [hother _ (by decide), rootNodes, Toml.lookup_assign]
    rfl

/-! ## Reading the tables -/

/-- A single is read back from its value. -/
theorem single?_singleValue (x : Float32) : single? (singleValue x) = some x :=
  congrArg some (Decimal.narrow_widen x)

/-- A word is read back from its value. -/
theorem word?_wordValue (n : UInt32) : word? (wordValue n) = some n := by
  have hlt : n.toNat < 4294967296 := n.toNat_lt
  simp [word?, wordValue, hlt]

/-- Where a field is there, its usual value is not looked at. -/
theorem orUsual_bind {α β : Type} {read : Value → Option α} {v : Value} {a : α} (h : read v = some a)
    (usual : α) (next : α → Option β) : (orUsual read usual (some v) >>= next) = next a := by
  rw [orUsual, h]
  rfl

/-- Extents are read back from their table. -/
theorem extents?_extentsNode (e : Extents) : extents? (extentsNode e).toValue = some e := by
  rw [extentsNode, Node.toValue, Toml.nodesToEntries_plainNode]
  simp [extents?, fields?, extentsFields, Toml.lookup_cons, single?_singleValue]

/-- What the table of thresholds says of each name. -/
theorem lookup_thresholdsNode (t : Thresholds) {entries : Toml.Entries}
    (h : (thresholdsNode t).toValue = .table entries) :
    entries.lookup "ego_box" = some (extentsNode t.body).toValue ∧
      entries.lookup "roi" = some (extentsNode t.region).toValue ∧
      entries.lookup "height_min" = some (singleValue t.heightMin) ∧
      entries.lookup "height_max" = some (singleValue t.heightMax) ∧
      entries.lookup "min_points_in_roi_to_trigger" = some (wordValue t.minPoints) ∧
      entries.lookup "min_consecutive_frames_to_trigger" = some (wordValue t.minFrames) := by
  cases h
  simp only [Toml.lookup_nodesToEntries, Toml.lookup_assign, Toml.lookup_plainNode]
  exact ⟨rfl, rfl, rfl, rfl, rfl, rfl⟩

/-- Thresholds are read back from their table and the tables below it. -/
theorem thresholds?_thresholdsNode (t : Thresholds) :
    thresholds? (thresholdsNode t).toValue = some t := by
  obtain ⟨entries, htable⟩ : ∃ entries, (thresholdsNode t).toValue = .table entries := ⟨_, rfl⟩
  obtain ⟨hbody, hregion, hmin, hmax, hpoints, hframes⟩ := lookup_thresholdsNode t htable
  have hfields : fields? ["ego_box", "roi", "height_min", "height_max", "min_points_in_roi_to_trigger",
      "min_consecutive_frames_to_trigger"] (.table entries) =
      some [some (extentsNode t.body).toValue, some (extentsNode t.region).toValue,
        some (singleValue t.heightMin), some (singleValue t.heightMax), some (wordValue t.minPoints),
        some (wordValue t.minFrames)] := by
    simp only [fields?, List.map_cons, List.map_nil, hbody, hregion, hmin, hmax, hpoints, hframes]
  rw [htable, thresholds?, hfields, Option.bind_eq_bind, Option.bind_some]
  dsimp only
  rw [orUsual_bind (extents?_extentsNode t.body), orUsual_bind (extents?_extentsNode t.region),
    orUsual_bind (single?_singleValue t.heightMin), orUsual_bind (single?_singleValue t.heightMax),
    orUsual_bind (word?_wordValue t.minPoints), orUsual_bind (word?_wordValue t.minFrames)]
  rfl

/-- A mount is read back from its table. -/
theorem mount?_mountFields (m : Mount) : mount? (.table (mountFields m)) = some m := by
  simp [mount?, fields?, mountFields, Toml.lookup_cons, string?, orUsual, vector?, quaternion?,
    singles?, single?_singleValue]

/-- Mounts are read back from their tables, in order. -/
theorem mounts?_mountFields (mounts : List Mount) :
    mounts? (.array ((mounts.map mountFields).map .table)) = some mounts := by
  have hread : mounts.mapM (mount? ∘ Value.table ∘ mountFields) = some (mounts.map id) :=
    Json.Value.mapM_eq_some_map fun m _ => mount?_mountFields m
  rw [mounts?, List.map_map, List.mapM_map, hread, List.map_id]

/-- **The settings that are read from a document are those it was written from.** -/
theorem ofDocument?_documentChars {s : Settings} (h : s.IsLegible) :
    ofDocument? (String.ofList s.documentChars) = some s := by
  obtain ⟨nodes, hnodes, hvehicle, htopic, hinterval, hguardian, hmounts⟩ := exists_assemble s
  have hread := (Toml.read?_of_isRead (isRead_documentChars h) rfl).trans hnodes
  rw [ofDocument?, hread, Option.bind_some, ofEntries?]
  simp only [Toml.lookup_nodesToEntries, hvehicle, htopic, hinterval, hguardian, hmounts,
    Option.map_some, Node.toValue]
  rw [orUsual_bind (a := s.vehicle) rfl, orUsual_bind (a := s.topic) rfl,
    orUsual_bind (a := s.interval) rfl, orUsual_bind (thresholds?_thresholdsNode s.thresholds),
    orUsual_bind (mounts?_mountFields s.mounts)]
  rfl

end Settings

end CollisionWatch
