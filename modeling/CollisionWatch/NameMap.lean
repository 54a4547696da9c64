/-!
# Maps from names

A finite map whose keys are names, kept in the order of their code points.  Being sorted is part of
the type, so a map has one representation only, and walking it visits the names in a fixed order.
-/

namespace CollisionWatch

/-- Entries in strictly ascending order of their names. -/
def NameSorted {β : Type} (entries : List (String × β)) : Prop :=
  entries.Pairwise fun a b => a.1 < b.1

/-- A map from names. -/
structure NameMap (β : Type) where
  /-- The names with their values, in order. -/
  entries : List (String × β)
  /-- The names ascend. -/
  sorted : NameSorted entries

namespace NameMap

variable {β : Type}

/-- The map without names. -/
def empty : NameMap β := ⟨[], .nil⟩

/-- There is a map at least, the empty one. -/
instance : Inhabited (NameMap β) := ⟨empty⟩

/-- The value of a name. -/
def get? (m : NameMap β) (name : String) : Option β := m.entries.lookup name

/-- The name has a value. -/
def contains (m : NameMap β) (name : String) : Bool := (m.get? name).isSome

/-- The names in order. -/
def names (m : NameMap β) : List String := m.entries.map Prod.fst

/-- The number of names. -/
def size (m : NameMap β) : Nat := m.entries.length

/-! ## Giving a name a value -/

/-- Put an entry in its place, over an older one of that name. -/
def put (name : String) (value : β) : List (String × β) → List (String × β)
  | [] => [(name, value)]
  | entry :: rest =>
    if name < entry.1 then (name, value) :: entry :: rest
    else if name = entry.1 then (name, value) :: rest
    else entry :: put name value rest

/-- Every name after a `put` is the new one or was there before. -/
theorem fst_of_mem_put {name : String} {value : β} {entries : List (String × β)}
    {e : String × β} (h : e ∈ put name value entries) :
    e.1 = name ∨ ∃ e' ∈ entries, e'.1 = e.1 := by
  induction entries with
  | nil => simp_all [put]
  | cons entry rest ih =>
    simp only [put] at h
    split at h
    · simp only [List.mem_cons] at h
      rcases h with rfl | rfl | h
      · exact .inl rfl
      · exact .inr ⟨_, by simp, rfl⟩
      · exact .inr ⟨e, by simp [h], rfl⟩
    · split at h
      · simp only [List.mem_cons] at h
        rcases h with rfl | h
        · exact .inl rfl
        · exact .inr ⟨e, by simp [h], rfl⟩
      · simp only [List.mem_cons] at h
        rcases h with rfl | h
        · exact .inr ⟨_, by simp, rfl⟩
        · rcases ih h with h | ⟨e', he, hn⟩
          · exact .inl h
          · exact .inr ⟨e', by simp [he], hn⟩

/-- Putting an entry keeps the names sorted. -/
theorem put_sorted (name : String) (value : β) {entries : List (String × β)}
    (h : NameSorted entries) : NameSorted (put name value entries) := by
  induction entries with
  | nil => simp [put, NameSorted]
  | cons entry rest ih =>
    obtain ⟨hhead, hrest⟩ := List.pairwise_cons.1 h
    simp only [put]
    split
    · rename_i hlt
      refine List.pairwise_cons.2 ⟨fun e he => ?_, h⟩
      rcases List.mem_cons.1 he with rfl | he
      · exact hlt
      · exact String.lt_trans hlt (hhead e he)
    · rename_i hnot
      split
      · rename_i heq
        exact List.pairwise_cons.2 ⟨fun e he => by simpa [heq] using hhead e he, hrest⟩
      · rename_i hne
        refine List.pairwise_cons.2 ⟨fun e he => ?_, ih hrest⟩
        rcases fst_of_mem_put he with hname | ⟨e', he', hname⟩
        · rw [hname]
          exact Std.lt_of_le_of_ne (String.not_lt.1 hnot) (Ne.symm hne)
        · rw [← hname]
          exact hhead e' he'

/-- The map with a value for a name, over an older one. -/
def insert (m : NameMap β) (name : String) (value : β) : NameMap β :=
  ⟨put name value m.entries, put_sorted name value m.sorted⟩

/-- A map from a list of entries; of several of one name the last counts. -/
def ofList (entries : List (String × β)) : NameMap β :=
  entries.foldl (fun m e => m.insert e.1 e.2) empty

/-- What was put is found under its name, and nothing else has changed. -/
theorem lookup_put (name : String) (value : β) {entries : List (String × β)}
    (h : NameSorted entries) (other : String) :
    (put name value entries).lookup other =
      if other = name then some value else entries.lookup other := by
  have hbeq : ∀ a b : String, (a == b) = decide (a = b) := fun a b => by
    by_cases hab : a = b <;> simp [hab]
  induction entries with
  | nil => by_cases ho : other = name <;> simp [put, List.lookup_cons, hbeq, ho]
  | cons entry rest ih =>
    obtain ⟨hhead, hrest⟩ := List.pairwise_cons.1 h
    obtain ⟨key, v⟩ := entry
    simp only [put]
    split
    · by_cases ho : other = name <;> simp [List.lookup_cons, hbeq, ho]
    · split
      · rename_i heq
        subst heq
        by_cases ho : other = name <;> simp [List.lookup_cons, hbeq, ho]
      · rename_i hne
        have hne' : ¬ name = key := hne
        simp only [List.lookup_cons, ih hrest, hbeq]
        by_cases ho : other = name
        · subst ho
          simp [hne']
        · by_cases hk : other = key <;> simp [hk, ho]
          intro hcontra
          exact absurd (hk.trans hcontra) ho

/-- After an insertion the name has the new value and every other name its old one. -/
theorem get?_insert (m : NameMap β) (name : String) (value : β) (other : String) :
    (m.insert name value).get? other = if other = name then some value else m.get? other :=
  lookup_put name value m.sorted other

/-! ## Changing the value of a name -/

/-- The map with `f` applied to the value of a name, if it has one. -/
def modify (m : NameMap β) (name : String) (f : β → β) : NameMap β where
  entries := m.entries.map fun e => if e.1 = name then (e.1, f e.2) else e
  sorted := by
    refine List.pairwise_map.2 (m.sorted.imp fun {a b} h => ?_)
    have ha : (if a.1 = name then (a.1, f a.2) else a).1 = a.1 := by split <;> rfl
    have hb : (if b.1 = name then (b.1, f b.2) else b).1 = b.1 := by split <;> rfl
    rw [ha, hb]
    exact h

/-- A change of an entry changes no name. -/
theorem names_modify (m : NameMap β) (name : String) (f : β → β) :
    (m.modify name f).names = m.names := by
  simp only [names, modify, List.map_map]
  refine List.map_congr_left fun e _ => ?_
  simp only [Function.comp]
  split <;> rfl

end NameMap

end CollisionWatch
