import CollisionWatch.FrameTree.Resolve
import CollisionWatch.Proofs.FrameTree.Sampling
import CollisionWatch.Proofs.NameMap

/-!
# Trees of frames as they grow

A tree of frames starts without links and grows by fixing and recording motions (`Built`). Two facts
hold on the way: the parents kept for a child are exactly those that link to it (`Indexed`), and if
all recorded stamps are numbers then so are all stamps in the tree (`NumberStamped`). The neighbours
of a frame are the frames below it and the frames above it that a usable link joins to it
(`mem_children_iff`, `mem_ancestors_iff`). They can be listed unless the tree holds a link that
cannot be sampled at the time (`Breaks`), and a tree whose stamps are numbers holds none.
-/

namespace CollisionWatch

open Double (IsNumber)

/-- Filtering with an effect lists what comes of the items. -/
theorem mem_of_filterMapM_eq_ok {α β ε : Type} {f : α → Except ε (Option β)} {xs : List α}
    {ys : List β} (h : xs.filterMapM f = .ok ys) (y : β) :
    y ∈ ys ↔ ∃ x ∈ xs, f x = .ok (some y) := by
  induction xs generalizing ys with
  | nil =>
    obtain rfl : [] = ys := Except.ok.inj h
    simp
  | cons x rest ih =>
    rw [List.filterMapM_cons] at h
    cases hx : f x with
    | error e =>
      rw [hx] at h
      cases h
    | ok answer =>
      rw [hx] at h
      cases answer with
      | none => simp [ih h, hx]
      | some z =>
        cases hrest : rest.filterMapM f with
        | error e =>
          change (List.filterMapM f rest).bind _ = _ at h
          rw [hrest] at h
          cases h
        | ok zs =>
          change (List.filterMapM f rest).bind _ = _ at h
          rw [hrest] at h
          obtain rfl : z :: zs = ys := Except.ok.inj h
          simp [ih hrest, hx, eq_comm]

/-- Filtering with an effect fails only at one of the items. -/
theorem exists_of_filterMapM_eq_error {α β ε : Type} {f : α → Except ε (Option β)} {xs : List α}
    {e : ε} (h : xs.filterMapM f = .error e) : ∃ x ∈ xs, f x = .error e := by
  induction xs with
  | nil => cases h
  | cons x rest ih =>
    rw [List.filterMapM_cons] at h
    cases hx : f x with
    | error e' =>
      rw [hx] at h
      obtain rfl : e' = e := Except.error.inj h
      exact ⟨x, List.mem_cons_self, hx⟩
    | ok answer =>
      rw [hx] at h
      have hrest : rest.filterMapM f = .error e := by
        cases answer with
        | none => exact h
        | some z =>
          change (List.filterMapM f rest).bind _ = _ at h
          cases hrest : rest.filterMapM f with
          | error e' =>
            rw [hrest] at h
            exact h
          | ok zs =>
            rw [hrest] at h
            cases h
      obtain ⟨x', hx', hfail⟩ := ih hrest
      exact ⟨x', List.mem_cons_of_mem x hx', hfail⟩

/-- What a look-up finds, carried on by a function. -/
theorem bind_map_eq_ok_some_iff {α β ε : Type} {x : Except ε (Option α)} {g : α → β}
    {y : β} :
    (do let a ← x; return a.map g : Except ε (Option β)) = .ok (some y) ↔
      ∃ a, x = .ok (some a) ∧ g a = y := by
  rcases x with e | _ | a
  · constructor
    · rintro ⟨⟩
    · rintro ⟨a, ⟨⟩, -⟩
  · constructor
    · rintro ⟨⟩
    · rintro ⟨a, ⟨⟩, -⟩
  · constructor
    · intro h
      exact ⟨a, rfl, Option.some.inj (Except.ok.inj h)⟩
    · rintro ⟨_, ⟨⟩, rfl⟩
      rfl

/-- A look-up that fails still fails when it is carried on. -/
theorem bind_map_eq_error_iff {α β ε : Type} {x : Except ε (Option α)} {g : α → β} {e : ε} :
    (do let a ← x; return a.map g : Except ε (Option β)) = .error e ↔ x = .error e := by
  cases x with
  | error e' =>
    constructor
    · rintro ⟨⟩
      rfl
    · rintro ⟨⟩
      rfl
  | ok a =>
    constructor
    · rintro ⟨⟩
    · rintro ⟨⟩

namespace FrameTree

variable {T : Type}

/-- A tree that was made by the operations on trees, every stamp being allowed. -/
inductive Built (allowed : Float → Prop) : FrameTree T → Prop where
  /-- A tree without links. -/
  | new : Built allowed {}
  /-- Another tolerance. -/
  | withTolerance {tree : FrameTree T} (seconds : Float) :
      Built allowed tree → Built allowed (tree.withTolerance seconds)
  /-- Another length of history. -/
  | withHistory {tree : FrameTree T} (length : Nat) :
      Built allowed tree → Built allowed (tree.withHistory length)
  /-- A motion fixed. -/
  | setFixed {tree : FrameTree T} (parent child : String) (motion : T) :
      Built allowed tree → Built allowed (tree.setFixed parent child motion)
  /-- A motion recorded. -/
  | record {tree : FrameTree T} (parent child : String) {stamp : Float} (motion : T) :
      allowed stamp → Built allowed tree → Built allowed (tree.record parent child stamp motion)

/-- A new link replaces the one between the same frames and no other. -/
theorem link?_setLink (tree : FrameTree T) (parent child : String) (link : Link T) (u v : String) :
    (tree.setLink parent child link).link? u v =
      if u = parent ∧ v = child then some link else tree.link? u v :=
  tree.links.get?_bind_insert parent child link u v

/-! ## The index of parents -/

/-- The frame `u` is kept as a parent of `v`. -/
def HasParent (tree : FrameTree T) (u v : String) : Prop :=
  (tree.parents.get? v).bind (·.get? u) = some ()

/-- The parents of a frame are those that link to it. -/
def Indexed (tree : FrameTree T) : Prop :=
  ∀ u v, tree.HasParent u v ↔ (tree.link? u v).isSome = true

/-- A new link makes its parent a parent of its child, and of no other frame. -/
theorem hasParent_setLink (tree : FrameTree T) (parent child : String) (link : Link T)
    (u v : String) :
    (tree.setLink parent child link).HasParent u v ↔
      (u = parent ∧ v = child) ∨ tree.HasParent u v := by
  have hget := tree.parents.get?_bind_insert child parent () v u
  unfold HasParent
  refine (iff_of_eq (congrArg (· = some ()) hget)).trans ?_
  by_cases hnew : v = child ∧ u = parent
  · simp [hnew]
  · rw [if_neg hnew]
    simp only [and_comm (a := u = parent), hnew, false_or]

/-- A new link is entered in the index. -/
theorem Indexed.setLink {tree : FrameTree T} (h : tree.Indexed) (parent child : String)
    (link : Link T) : (tree.setLink parent child link).Indexed := by
  intro u v
  rw [hasParent_setLink, link?_setLink, h u v]
  by_cases hnew : u = parent ∧ v = child
  · simp [hnew]
  · simp [hnew]

/-- **The index of parents is right in every tree.** -/
theorem Built.indexed {allowed : Float → Prop} {tree : FrameTree T} (h : tree.Built allowed) :
    tree.Indexed := by
  induction h with
  | new =>
    intro u v
    simp [HasParent, link?]
  | withTolerance seconds _ ih => exact ih
  | withHistory length _ ih => exact ih
  | setFixed parent child motion _ ih => exact ih.setLink parent child _
  | record parent child motion _ _ ih => exact ih.setLink parent child _

/-! ## Stamps -/

/-- The samples that a new one is recorded among are those of a link. -/
theorem exists_link_of_mem_samples {tree : FrameTree T} {u v : String} {s : Sample T}
    (hs : s ∈ (((tree.link? u v).map Link.history).getD {}).samples) :
    ∃ history, tree.link? u v = some (.recorded history) ∧ s ∈ history.samples := by
  cases hlink : tree.link? u v with
  | none =>
    rw [hlink] at hs
    exact absurd hs List.not_mem_nil
  | some link =>
    rw [hlink] at hs
    cases link with
    | fixed motion => exact absurd hs List.not_mem_nil
    | recorded history => exact ⟨history, rfl, hs⟩

/-- All stamps in the tree are numbers. -/
def NumberStamped (tree : FrameTree T) : Prop :=
  ∀ u v history, tree.link? u v = some (.recorded history) → history.NumberStamped

/-- Recording with a stamp that is a number. -/
theorem NumberStamped.record {tree : FrameTree T} (h : tree.NumberStamped) (parent child : String)
    {stamp : Float} (hstamp : IsNumber stamp) (motion : T) :
    (tree.record parent child stamp motion).NumberStamped := by
  intro u v history hlink
  rw [FrameTree.record, link?_setLink] at hlink
  split at hlink
  · obtain rfl := Link.recorded.inj (Option.some.inj hlink)
    refine History.NumberStamped.record (fun s hs => ?_) _ hstamp _
    obtain ⟨old, hold, hs⟩ := exists_link_of_mem_samples hs
    exact h parent child old hold s hs
  · exact h u v history hlink

/-- **Stamps that are numbers when they are recorded are numbers in the tree.** -/
theorem Built.numberStamped {tree : FrameTree T} (h : tree.Built IsNumber) :
    tree.NumberStamped := by
  induction h with
  | new =>
    intro u v history hlink
    simp [link?] at hlink
  | withTolerance seconds _ ih => exact ih
  | withHistory length _ ih => exact ih
  | setFixed parent child motion _ ih =>
    intro u v history hlink
    rw [FrameTree.setFixed, link?_setLink] at hlink
    split at hlink
    · cases hlink
    · exact ih u v history hlink
  | record parent child motion hstamp _ ih => exact ih.record parent child hstamp motion

/-- Every history in the tree starts with a stamp that is a number. -/
def StartsWithNumbers (tree : FrameTree T) : Prop :=
  ∀ u v history, tree.link? u v = some (.recorded history) → history.StartsWithNumber

/-- Where all stamps are numbers the first one of each history is. -/
theorem NumberStamped.startsWithNumbers {tree : FrameTree T} (h : tree.NumberStamped) :
    tree.StartsWithNumbers := fun u v history hlink => (h u v history hlink).startsWithNumber

/-! ## Neighbours -/

/-- The entries below a frame are its links. -/
theorem mem_entries_links_iff (tree : FrameTree T) (u v : String) (link : Link T) :
    (v, link) ∈ ((tree.links.get? u).getD .empty).entries ↔ tree.link? u v = some link := by
  rw [NameMap.mem_entries_iff, link?]
  cases tree.links.get? u <;> simp

/-- The entries above a frame are its parents. -/
theorem mem_entries_parents_iff (tree : FrameTree T) (u v : String) :
    (u, ()) ∈ ((tree.parents.get? v).getD .empty).entries ↔ tree.HasParent u v := by
  rw [NameMap.mem_entries_iff, HasParent]
  cases tree.parents.get? v <;> simp

variable [Motion T]

/-- The link from `u` down to `v` is usable at a time, with this motion. -/
def Carries (tree : FrameTree T) (time : Float) (u v : String) (motion : T) : Prop :=
  ∃ link, tree.link? u v = some link ∧ link.at? time tree.tolerance = .ok (some motion)

/-- A link is usable with one motion only. -/
theorem Carries.unique {tree : FrameTree T} {time : Float} {u v : String} {m n : T}
    (hm : tree.Carries time u v m) (hn : tree.Carries time u v n) : m = n := by
  obtain ⟨link, hlink, hat⟩ := hm
  obtain ⟨link', hlink', hat'⟩ := hn
  obtain rfl := Option.some.inj (hlink.symm.trans hlink')
  exact Option.some.inj (Except.ok.inj (hat.symm.trans hat'))

/-- A link of the tree cannot be sampled at a time. -/
def Breaks (tree : FrameTree T) (time : Float) (crash : Crash) : Prop :=
  ∃ u v link, tree.link? u v = some link ∧ link.at? time tree.tolerance = .error crash

/-- A tree whose histories start with numbers can be sampled at any time. -/
theorem StartsWithNumbers.not_breaks {tree : FrameTree T} (h : tree.StartsWithNumbers)
    (time : Float) (crash : Crash) : ¬ tree.Breaks time crash := by
  rintro ⟨u, v, link, hlink, hat⟩
  cases link with
  | fixed motion => cases hat
  | recorded history =>
    obtain ⟨motion, hok⟩ := (h u v history hlink).exists_at?_eq_ok time tree.tolerance
    cases hok.symm.trans hat

/-- A tree whose stamps are numbers can be sampled at any time. -/
theorem NumberStamped.not_breaks {tree : FrameTree T} (h : tree.NumberStamped) (time : Float)
    (crash : Crash) : ¬ tree.Breaks time crash := h.startsWithNumbers.not_breaks time crash

section neighbours

variable {tree : FrameTree T} {time : Float} {frame : String} {crash : Crash}
  {found : List (String × T)}

/-- The frames below a frame are those to which it has a usable link. -/
theorem mem_children_iff (h : tree.children time frame = .ok found) (v : String) (motion : T) :
    (v, motion) ∈ found ↔ tree.Carries time frame v motion := by
  rw [mem_of_filterMapM_eq_ok h]
  constructor
  · rintro ⟨⟨child, link⟩, hentry, hbind⟩
    obtain ⟨motion', hat, heq⟩ := bind_map_eq_ok_some_iff.1 hbind
    obtain ⟨rfl, rfl⟩ := Prod.mk.inj heq
    exact ⟨link, (tree.mem_entries_links_iff frame child link).1 hentry, hat⟩
  · rintro ⟨link, hlink, hat⟩
    refine ⟨(v, link), (tree.mem_entries_links_iff frame v link).2 hlink, ?_⟩
    exact bind_map_eq_ok_some_iff.2 ⟨motion, hat, rfl⟩

/-- The frames below a frame can be listed unless a link cannot be sampled. -/
theorem breaks_of_children_eq_error (h : tree.children time frame = .error crash) :
    tree.Breaks time crash := by
  obtain ⟨⟨child, link⟩, hentry, hfail⟩ := exists_of_filterMapM_eq_error h
  have hlink := (tree.mem_entries_links_iff frame child link).1 hentry
  exact ⟨frame, child, link, hlink, bind_map_eq_error_iff.1 hfail⟩

/-- The frames above a frame are those with a usable link to it, which is walked backwards. -/
theorem mem_ancestors_iff (hindex : tree.Indexed) (h : tree.ancestors time frame = .ok found)
    (u : String) (motion : T) :
    (u, motion) ∈ found ↔
      ∃ down, tree.Carries time u frame down ∧ Motion.inverse down = motion := by
  rw [mem_of_filterMapM_eq_ok h]
  constructor
  · rintro ⟨⟨parent, _⟩, hentry, hat⟩
    have hparent := (hindex parent frame).1 ((tree.mem_entries_parents_iff parent frame).1 hentry)
    obtain ⟨link, hlink⟩ := Option.isSome_iff_exists.1 hparent
    dsimp only at hat
    rw [hlink] at hat
    obtain ⟨down, hdown, heq⟩ := bind_map_eq_ok_some_iff.1 hat
    obtain ⟨rfl, rfl⟩ := Prod.mk.inj heq
    exact ⟨down, ⟨link, hlink, hdown⟩, rfl⟩
  · rintro ⟨down, ⟨link, hlink, hat⟩, rfl⟩
    refine ⟨(u, ()), (tree.mem_entries_parents_iff u frame).2 ((hindex u frame).2 ?_), ?_⟩
    · rw [hlink]
      rfl
    · dsimp only
      rw [hlink]
      exact bind_map_eq_ok_some_iff.2 ⟨down, hat, rfl⟩

/-- The frames above a frame can be listed unless a link cannot be sampled. -/
theorem breaks_of_ancestors_eq_error (h : tree.ancestors time frame = .error crash) :
    tree.Breaks time crash := by
  obtain ⟨⟨parent, _⟩, -, hfail⟩ := exists_of_filterMapM_eq_error h
  cases hlink : tree.link? parent frame with
  | none =>
    dsimp only at hfail
    rw [hlink] at hfail
    cases hfail
  | some link =>
    dsimp only at hfail
    rw [hlink] at hfail
    exact ⟨parent, frame, link, hlink, bind_map_eq_error_iff.1 hfail⟩

/-- Where all stamps are numbers the frames below a frame can be listed. -/
theorem exists_children_eq_ok (h : tree.NumberStamped) (time : Float) (frame : String) :
    ∃ below, tree.children time frame = .ok below ∧
      ∀ v motion, (v, motion) ∈ below ↔ tree.Carries time frame v motion := by
  cases hbelow : tree.children time frame with
  | error crash => exact absurd (breaks_of_children_eq_error hbelow) (h.not_breaks time crash)
  | ok below => exact ⟨below, rfl, mem_children_iff hbelow⟩

/-- Where all stamps are numbers the frames above a frame can be listed. -/
theorem exists_ancestors_eq_ok (hindex : tree.Indexed) (h : tree.NumberStamped) (time : Float)
    (frame : String) :
    ∃ above, tree.ancestors time frame = .ok above ∧
      ∀ u motion, (u, motion) ∈ above ↔
        ∃ down, tree.Carries time u frame down ∧ Motion.inverse down = motion := by
  cases habove : tree.ancestors time frame with
  | error crash => exact absurd (breaks_of_ancestors_eq_error habove) (h.not_breaks time crash)
  | ok above => exact ⟨above, rfl, mem_ancestors_iff hindex habove⟩

end neighbours

end FrameTree

end CollisionWatch
