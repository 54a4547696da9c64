import CollisionWatch.NameMap
import Mathlib.Data.List.Induction
import Mathlib.Data.List.Nodup

/-!
# What a map from names holds

A map is known by `get?`: its entries are the pairs that `get?` answers (`mem_entries_iff`), each
name once (`nodup_names`). For a map whose values are maps again, putting a value under two names
changes the answer for these two names only (`get?_bind_insert`).
-/

namespace CollisionWatch.NameMap

variable {β : Type}

/-- Nothing is found in the map without names. -/
@[simp] theorem get?_empty (name : String) : (empty : NameMap β).get? name = none := rfl

/-- Sorted entries hold every name once. -/
theorem nodup_map_fst {entries : List (String × β)} (h : NameSorted entries) :
    (entries.map Prod.fst).Nodup := by
  rw [List.Nodup, List.pairwise_map]
  refine h.imp ?_
  intro a b hlt heq
  rw [heq] at hlt
  exact String.lt_irrefl b.1 hlt

/-- Every name stands once in a map. -/
theorem nodup_names (m : NameMap β) : m.names.Nodup := nodup_map_fst m.sorted

/-- In entries that give a name one value only, the value is what a look-up finds. -/
theorem lookup_eq_some_iff_mem {entries : List (String × β)} {name : String}
    (h : ∀ v w, (name, v) ∈ entries → (name, w) ∈ entries → v = w) (value : β) :
    entries.lookup name = some value ↔ (name, value) ∈ entries := by
  constructor
  · intro hlookup
    obtain ⟨before, after, rfl, -⟩ := List.lookup_eq_some_iff.1 hlookup
    exact List.mem_append_right before List.mem_cons_self
  · intro hmem
    cases hlookup : entries.lookup name with
    | none =>
      have hnone := List.lookup_eq_none_iff.1 hlookup (name, value) hmem
      simp at hnone
    | some v =>
      obtain ⟨before, after, rfl, -⟩ := List.lookup_eq_some_iff.1 hlookup
      rw [h v value (List.mem_append_right before List.mem_cons_self) hmem]

/-- The entries of a map are what its look-ups find. -/
theorem mem_entries_iff (m : NameMap β) (name : String) (value : β) :
    (name, value) ∈ m.entries ↔ m.get? name = some value := by
  refine (lookup_eq_some_iff_mem ?_ value).symm
  intro v w hv hw
  exact (Prod.mk.inj (List.inj_on_of_nodup_map m.nodup_names hv hw rfl)).2

/-- The names of a map are those with a value. -/
theorem mem_names_iff (m : NameMap β) (name : String) :
    name ∈ m.names ↔ (m.get? name).isSome = true := by
  rw [Option.isSome_iff_exists, names, List.mem_map]
  constructor
  · rintro ⟨⟨_, value⟩, hmem, rfl⟩
    exact ⟨value, (m.mem_entries_iff _ value).1 hmem⟩
  · rintro ⟨value, hvalue⟩
    exact ⟨(name, value), (m.mem_entries_iff name value).2 hvalue, rfl⟩

section two

variable {γ : Type} {m : NameMap β} {m' : NameMap γ}

/-- Maps that give values to the same names have the same names in the same order. -/
theorem names_eq (h : ∀ name, (m.get? name).isSome = (m'.get? name).isSome) :
    m.names = m'.names := by
  have hperm : m.names.Perm m'.names := by
    rw [List.perm_ext_iff_of_nodup m.nodup_names m'.nodup_names]
    intro name
    rw [mem_names_iff, mem_names_iff, h]
  have hsorted : ∀ {α : Type} (n : NameMap α), n.names.Pairwise (· < ·) := fun n =>
    List.pairwise_map.2 n.sorted
  refine hperm.eq_of_pairwise (fun a b _ _ hab hba => ?_) (hsorted m) (hsorted m')
  exact absurd hab (String.lt_asymm hba)

/-- Functions of entries that agree on what look-ups find list the same. -/
theorem map_entries_eq {δ : Type} {f : String × β → δ} {g : String × γ → δ}
    (h : ∀ name, (m.get? name).map (fun v => f (name, v)) =
      (m'.get? name).map fun v => g (name, v)) :
    m.entries.map f = m'.entries.map g := by
  have hlist : ∀ {α : Type} (n : NameMap α) (k : String × α → δ), (n.entries.map k).map some =
      n.names.map fun name => (n.get? name).map fun v => k (name, v) := by
    intro α n k
    rw [names, List.map_map, List.map_map]
    refine List.map_congr_left fun entry hentry => ?_
    rw [Function.comp, Function.comp, (n.mem_entries_iff entry.1 entry.2).1 hentry]
    rfl
  have hnames : m.names = m'.names := names_eq fun name => by
    have hname := congrArg Option.isSome (h name)
    rwa [Option.isSome_map, Option.isSome_map] at hname
  refine List.map_injective_iff.2 (fun _ _ => Option.some.inj) ?_
  rw [hlist, hlist, hnames]
  exact List.map_congr_left fun name _ => h name

end two

/-- Changing a value keeps the other values. -/
theorem get?_modify (m : NameMap β) (name : String) (f : β → β) (other : String) :
    (m.modify name f).get? other = if other = name then (m.get? other).map f else m.get? other := by
  have hlookup : ∀ entries : List (String × β),
      (entries.map fun e => if e.1 = name then (e.1, f e.2) else e).lookup other =
        if other = name then (entries.lookup other).map f else entries.lookup other := by
    intro entries
    induction entries with
    | nil => simp
    | cons entry rest ih =>
      obtain ⟨key, value⟩ := entry
      rw [List.map_cons]
      by_cases hother : other = key
      · subst hother
        by_cases hkey : other = name
        · rw [if_pos hkey, if_pos hkey, List.lookup_cons_self, List.lookup_cons_self]
          rfl
        · rw [if_neg hkey, if_neg hkey, List.lookup_cons_self, List.lookup_cons_self]
      · have hbeq : (other == key) = false := beq_false_of_ne hother
        have hfst : (if key = name then (key, f value) else (key, value)).1 = key := by
          split <;> rfl
        rw [List.lookup_cons, List.lookup_cons, hfst, hbeq]
        exact ih
  exact hlookup m.entries

/-- Changing a value gives no name a value and takes none. -/
theorem contains_modify (m : NameMap β) (name : String) (f : β → β) (other : String) :
    (m.modify name f).contains other = m.contains other := by
  rw [contains, contains, get?_modify]
  split <;> simp

/-- The names of a list, all with one value. -/
theorem get?_ofList_map (names : List String) (value : β) (name : String) :
    (ofList (names.map (·, value))).get? name = if name ∈ names then some value else none := by
  induction names using List.reverseRecOn with
  | nil => simp [ofList]
  | append_singleton names last ih =>
    unfold ofList at ih ⊢
    rw [List.map_append, List.foldl_append, List.map_singleton, List.foldl_cons, List.foldl_nil,
      get?_insert, ih]
    by_cases hlast : name = last
    · simp [hlast]
    · simp [hlast]

/-- A name above all others comes last. -/
theorem put_of_forall_lt {name : String} {value : β} {entries : List (String × β)}
    (h : ∀ e ∈ entries, e.1 < name) : put name value entries = entries ++ [(name, value)] := by
  induction entries with
  | nil => rfl
  | cons entry rest ih =>
    have hlt := h entry List.mem_cons_self
    have hnot : ¬ name < entry.1 := fun hgt => String.lt_irrefl _ (String.lt_trans hlt hgt)
    have hne : ¬ name = entry.1 := by
      rintro rfl
      exact String.lt_irrefl _ hlt
    rw [put, if_neg hnot, if_neg hne, ih fun e he => h e (List.mem_cons_of_mem _ he)]
    rfl

/-- A map is made of its entries. -/
theorem ofList_entries (m : NameMap β) : ofList m.entries = m := by
  have hentries : ∀ entries : List (String × β), NameSorted entries →
      (ofList entries).entries = entries := by
    intro entries hsorted
    induction entries using List.reverseRecOn with
    | nil => rfl
    | append_singleton entries last ih =>
      obtain ⟨hbefore, -, hlast⟩ := List.pairwise_append.1 hsorted
      have hput := @put_of_forall_lt β last.1 last.2 entries fun e he => hlast e he last (by simp)
      unfold ofList at ih ⊢
      rw [List.foldl_append, List.foldl_cons, List.foldl_nil, insert]
      simp only [ih hbefore]
      exact hput
  have h := hentries m.entries m.sorted
  generalize ofList m.entries = other at h ⊢
  cases m
  cases other
  simp_all

/-- Putting a value under two names of a map of maps. -/
theorem get?_bind_insert (m : NameMap (NameMap β)) (a b : String) (value : β) (c d : String) :
    ((m.insert a (((m.get? a).getD empty).insert b value)).get? c).bind (·.get? d) =
      if c = a ∧ d = b then some value else (m.get? c).bind (·.get? d) := by
  rw [get?_insert]
  by_cases hc : c = a
  · subst hc
    rw [if_pos rfl, Option.bind_some, get?_insert]
    by_cases hd : d = b
    · rw [if_pos hd, if_pos ⟨rfl, hd⟩]
    · rw [if_neg hd, if_neg fun h => hd h.2]
      cases m.get? c <;> simp
  · rw [if_neg hc, if_neg fun h => hc h.1]

/-- What is found in the map of a name that may have none. -/
theorem get?_getD_empty (m : Option (NameMap β)) (name : String) :
    (m.getD empty).get? name = m.bind (·.get? name) := by
  cases m <;> rfl

/-- No name of a map of maps has a map without names. -/
def NoneEmpty (m : NameMap (NameMap β)) : Prop :=
  ∀ a row, m.get? a = some row → ∃ b, (row.get? b).isSome = true

/-- Putting a value under two names leaves no map without names. -/
theorem NoneEmpty.insert {m : NameMap (NameMap β)} (h : m.NoneEmpty) (a b : String) (value : β) :
    (m.insert a (((m.get? a).getD empty).insert b value)).NoneEmpty := by
  intro c row hrow
  rw [get?_insert] at hrow
  split at hrow
  · obtain rfl := Option.some.inj hrow
    exact ⟨b, by rw [get?_insert, if_pos rfl]; rfl⟩
  · exact h c row hrow

/-- The names of such a map are those under which something is found. -/
theorem NoneEmpty.isSome_get?_iff {m : NameMap (NameMap β)} (h : m.NoneEmpty) (a : String) :
    (m.get? a).isSome = true ↔ ∃ b, ((m.get? a).bind (·.get? b)).isSome = true := by
  cases hrow : m.get? a with
  | none => simp
  | some row => simpa using h a row hrow

end CollisionWatch.NameMap
