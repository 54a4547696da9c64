import CollisionWatch.Proofs.Toml.Document

/-!
# Tables from the sections of a document

What a document of plain entries and sections comes down to.  A name that is assigned is found, and
all others stay what they were (`lookup_assign`); entries of different names make a table of just
them (`insertAll_plainEntry`).
-/

namespace CollisionWatch.Toml

/-! ## Assignments -/

/-- The first entry of a name counts. -/
theorem lookup_cons {α : Type} (entry : String × α) (entries : List (String × α)) (name : String) :
    (entry :: entries).lookup name = if name = entry.1 then some entry.2 else entries.lookup name := by
  by_cases h : name = entry.1
  · simp [List.lookup, h]
  · simp [List.lookup, beq_false_of_ne h, h]

/-- An assignment is found under its own name, and changes nothing under the others. -/
theorem lookup_assign (nodes : Nodes) (name key : String) (node : Node) :
    (assign nodes name node).lookup key = if key = name then some node else nodes.lookup key := by
  induction nodes with
  | nil => simp [assign, lookup_cons]
  | cons entry nodes ih =>
    by_cases hname : entry.1 = name
    · by_cases hkey : key = name <;> simp [assign, lookup_cons, hname, hkey]
    · by_cases hkey : key = entry.1 <;> simp [assign, lookup_cons, hname, hkey, ih]

/-- The last of two assignments to a name counts. -/
theorem assign_assign (nodes : Nodes) (name : String) (first last : Node) :
    assign (assign nodes name first) name last = assign nodes name last := by
  induction nodes with
  | nil => simp [assign]
  | cons entry nodes ih =>
    by_cases hname : entry.1 = name <;> simp [assign, hname, ih]

/-- Every entry of the values is found under the name of its node. -/
theorem lookup_nodesToEntries (nodes : Nodes) (name : String) :
    (nodesToEntries nodes).lookup name = (nodes.lookup name).map Node.toValue := by
  induction nodes with
  | nil => rfl
  | cons entry nodes ih =>
    obtain ⟨key, node⟩ := entry
    by_cases hname : name = key <;> simp [nodesToEntries, nodeToEntry, lookup_cons, hname, ih]

/-- The tables of an array become values one by one. -/
theorem tablesToValues_eq_map (tables : List Nodes) :
    tablesToValues tables = tables.map fun table => .table (nodesToEntries table) := by
  induction tables with
  | nil => rfl
  | cons table tables ih => rw [tablesToValues, ih, List.map_cons]

/-! ## Entries -/

/-- An entry without a dotted key. -/
def plainEntry (field : String × Value) : Entry := ⟨[], field.1, field.2⟩

/-- The node of an entry without a dotted key. -/
def plainNode (field : String × Value) : String × Node := (field.1, .value field.2)

/-- A plain field is found as the node of its value. -/
theorem lookup_plainNode (fields : List (String × Value)) (name : String) :
    (fields.map plainNode).lookup name = (fields.lookup name).map .value := by
  induction fields with
  | nil => rfl
  | cons field fields ih =>
    by_cases hname : name = field.1 <;> simp [plainNode, lookup_cons, hname, ih]

/-- Entries of different new names go behind the ones that are there. -/
theorem insertAll_append {fields : List (String × Value)} (h : (fields.map Prod.fst).Nodup)
    {nodes : Nodes} (hnew : ∀ name ∈ fields.map Prod.fst, nodes.lookup name = none) :
    insertAll (fields.map plainEntry) nodes = some (nodes ++ fields.map plainNode) := by
  induction fields generalizing nodes with
  | nil => simp [insertAll]
  | cons field fields ih =>
    rw [List.map_cons, List.nodup_cons] at h
    have hinsert : insert [] field.1 field.2 nodes = some (nodes ++ [plainNode field]) := by
      simp [insert, hnew field.1 (by simp), plainNode]
    have hmore : insertAll (fields.map plainEntry) (nodes ++ [plainNode field]) =
        some (nodes ++ [plainNode field] ++ fields.map plainNode) := by
      refine ih h.2 fun name hname => ?_
      have hother : name ≠ field.1 := by
        rintro rfl
        exact h.1 hname
      rw [List.lookup_append, hnew name (by simp at hname ⊢; tauto)]
      simp [plainNode, lookup_cons, hother]
    simp only [insertAll] at hmore ⊢
    simp [plainEntry, hinsert, hmore]

/-- Entries of different names make a table of just them. -/
theorem insertAll_plainEntry {fields : List (String × Value)} (h : (fields.map Prod.fst).Nodup) :
    insertAll (fields.map plainEntry) [] = some (fields.map plainNode) :=
  insertAll_append h fun _ _ => rfl

/-- The nodes of plain fields have the fields as their values. -/
theorem nodesToEntries_plainNode (fields : List (String × Value)) :
    nodesToEntries (fields.map plainNode) = fields := by
  induction fields with
  | nil => rfl
  | cons field fields ih => rw [List.map_cons, nodesToEntries, ih]; rfl

/-! ## Sections -/

/-- A section of entries without dotted keys. -/
def plainSection (kind : HeaderKind) (path : List String) (fields : List (String × Value)) : Section :=
  ⟨kind, path, fields.map plainEntry⟩

/-- The statements of a section: an empty line, the header and the entries. -/
def Section.statements (s : Section) : List Statement :=
  .blank :: .header s.kind s.path :: s.entries.map .entry

/-- Entries in front of all sections are those of the root. -/
theorem arrange_entries (entries : List Entry) (more : List Statement) :
    arrange (entries.map .entry ++ more) = (entries ++ (arrange more).1, (arrange more).2) := by
  induction entries with
  | nil => rfl
  | cons e entries ih => rw [List.map_cons, List.cons_append, arrange, ih]; rfl

/-- Sections are told apart by their headers. -/
theorem arrange_sections (sections : List Section) :
    arrange (sections.flatMap Section.statements) = ([], sections) := by
  induction sections with
  | nil => rfl
  | cons s sections ih =>
    rw [List.flatMap_cons, Section.statements, List.cons_append, List.cons_append, arrange, arrange,
      arrange_entries, ih]
    simp

/-- Entries and sections are found where they stand. -/
theorem arrange_statements (entries : List Entry) (sections : List Section) :
    arrange (entries.map .entry ++ sections.flatMap Section.statements) = (entries, sections) := by
  simp [arrange_entries, arrange_sections]

/-- A path of one key leads to the node of that key. -/
theorem update_single (key : String) (change : Option Node → Option Node) (nodes : Nodes) :
    update [key] change nodes = (change (nodes.lookup key)).map (assign nodes key) := rfl

/-- A section of a new name becomes a table. -/
theorem update_newTable {fields : List (String × Value)} (h : (fields.map Prod.fst).Nodup)
    {key : String} {nodes : Nodes} (hnew : nodes.lookup key = none) (path : List String) :
    update [key] (plainSection .table path fields).node nodes =
      some (assign nodes key (.table .written (fields.map plainNode))) := by
  simp [update_single, hnew, Section.node, plainSection, insertAll_plainEntry h]

/-- A section below a table becomes a table in there. -/
theorem update_belowTable {fields : List (String × Value)} (h : (fields.map Prod.fst).Nodup)
    {name : String} {sub : Nodes} (hnew : sub.lookup name = none) (path : List String) (nodes : Nodes)
    (key : String) (origin : Origin) :
    let below := assign sub name (.table .written (fields.map plainNode))
    update [key, name] (plainSection .table path fields).node (assign nodes key (.table origin sub)) =
      some (assign nodes key (.table origin below)) := by
  have hbelow := update_newTable h hnew path
  rw [update, lookup_assign, if_pos rfl]
  · simp [hbelow, assign_assign]
  · simp

/-- One section after the other. -/
def extend (nodes : Nodes) (sections : List Section) : Option Nodes :=
  sections.foldlM (fun nodes s => update s.path s.node nodes) nodes

/-- Sections are put into the tables one after the other. -/
theorem extend_cons {nodes next : Nodes} {s : Section} (h : update s.path s.node nodes = some next)
    (sections : List Section) : extend nodes (s :: sections) = extend next sections := by
  simp [extend, h]

/-- Sections extend a table one after the other. -/
theorem extend_append {nodes next : Nodes} {sections : List Section}
    (h : extend nodes sections = some next) (more : List Section) :
    extend nodes (sections ++ more) = extend next more := by
  simp only [extend] at h ⊢
  simp [h]

section

variable {key : String} {tables : List (List (String × Value))}

/-- More tables of one header go behind those that are there. -/
theorem extend_tables (h : ∀ table ∈ tables, (table.map Prod.fst).Nodup) (nodes : Nodes)
    (old : List Nodes) :
    extend (assign nodes key (.tables old)) (tables.map (plainSection .oneOfMany [key])) =
      some (assign nodes key (.tables (old ++ tables.map (·.map plainNode)))) := by
  induction tables generalizing old with
  | nil => simp [extend]
  | cons table tables ih =>
    have hmore := ih (fun t ht => h t (List.mem_cons_of_mem table ht)) (old ++ [table.map plainNode])
    have hupdate : update [key] (plainSection .oneOfMany [key] table).node
        (assign nodes key (.tables old)) =
        some (assign nodes key (.tables (old ++ [table.map plainNode]))) := by
      simp [update_single, lookup_assign, Section.node, plainSection,
        insertAll_plainEntry (h table (by simp)), assign_assign]
    rw [List.map_cons, extend_cons hupdate, hmore]
    simp

/-- Tables of one header become a list. -/
theorem extend_newTables (h : ∀ table ∈ tables, (table.map Prod.fst).Nodup) (hne : tables ≠ [])
    {nodes : Nodes} (hnew : nodes.lookup key = none) :
    extend nodes (tables.map (plainSection .oneOfMany [key])) =
      some (assign nodes key (.tables (tables.map (·.map plainNode)))) := by
  obtain ⟨table, more, rfl⟩ := List.exists_cons_of_ne_nil hne
  have hupdate : update [key] (plainSection .oneOfMany [key] table).node nodes =
      some (assign nodes key (.tables [table.map plainNode])) := by
    simp [update_single, hnew, Section.node, plainSection, insertAll_plainEntry (h table (by simp))]
  rw [List.map_cons, extend_cons hupdate,
    extend_tables (fun t ht => h t (List.mem_cons_of_mem table ht))]
  rfl

/-- The list of tables of one header. -/
theorem toValue_tables (tables : List (List (String × Value))) :
    (Node.tables (tables.map (·.map plainNode))).toValue = .array (tables.map .table) := by
  simp [Node.toValue, tablesToValues_eq_map, nodesToEntries_plainNode]

end

/-! ## Documents -/

/-- A document is the entries of its root, extended by its sections. -/
theorem assemble_of_extend {entries : List Entry} {sections : List Section} {root nodes : Nodes}
    (hroot : insertAll entries [] = some root) (h : extend root sections = some nodes) :
    assemble entries sections = some (nodesToEntries nodes) := by
  rw [extend] at h
  simp only [assemble, hroot, h, Option.bind_eq_bind, Option.bind_some, Option.pure_def]

/-- **The table of a document is that of its entries and sections.** -/
theorem read?_of_isRead {chars : List Char} {entries : List Entry} {sections : List Section}
    (h : IsRead chars (entries.map .entry ++ sections.flatMap Section.statements))
    (hmark : dropMark chars = chars) :
    read? (String.ofList chars) = assemble entries sections := by
  rw [read?, String.toList_ofList, hmark, h.readStatements?]
  simp only [Option.bind_eq_bind, Option.bind_some, arrange_statements]

end CollisionWatch.Toml
