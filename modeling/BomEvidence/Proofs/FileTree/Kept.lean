import BomEvidence.Proofs.FileTree.Written

/-!
What writing a text and opening a database leave of a file tree. Each changes what stands at the
place of its path and nothing else, and a path that can be followed afterwards could be followed
before to the same place.
-/

namespace BomEvidence

namespace FileTree

def LeadsTo (tree : FileTree) (path key : String) : Prop :=
  ∃ place found, tree.locate path = .ok (place, found) ∧ place.key = key

def Refuses (tree : FileTree) (path : String) : Prop :=
  ∀ content, ∃ failure, tree.writeText path content = .error failure

theorem entries_put (tree : FileTree) (place : Place) (entry : FileEntry) (key : String) :
    (tree.put place entry).entries.get? key =
      if key = place.key then some entry else tree.entries.get? key :=
  TextMap.get_insert ..

theorem entries_of_locate {tree : FileTree} {path : String} {place : Place}
    {found : Option FileEntry} (located : tree.locate path = .ok (place, found))
    (notDirectory : found ≠ some .directory) : tree.entries.get? place.key = found := by
  rw [locate_found located] at notDirectory ⊢
  unfold entryAt at notDirectory ⊢
  split at notDirectory
  · exact absurd rfl notDirectory
  · rename_i notGiven
    rw [if_neg notGiven]

theorem directory_of_put {tree : FileTree} {place other : Place} {entry : FileEntry}
    (noDirectory : entry ≠ .directory)
    (directory : (tree.put place entry).entryAt other = some .directory) :
    tree.entryAt other = some .directory := by
  unfold entryAt at directory ⊢
  split
  · rfl
  · rename_i notGiven
    rw [if_neg notGiven, entries_put] at directory
    split at directory
    · exact absurd (Option.some.inj directory) noDirectory
    · exact directory

theorem follow_of_put {tree : FileTree} {start place reached : Place} {names : List String}
    {entry : FileEntry} {found : Option FileEntry} (noDirectory : entry ≠ .directory)
    (followed : (tree.put place entry).follow start names = .ok (reached, found)) :
    ∃ before, tree.follow start names = .ok (reached, before) := by
  induction names generalizing start with
  | nil =>
      cases followed
      exact ⟨_, rfl⟩
  | cons name rest ih =>
      unfold follow at followed ⊢
      split at followed
      · cases followed
      · rename_i directory
        -- What the path leads through are directories, and none of them was put.
        rw [directory_of_put noDirectory directory]
        dsimp only
        split at followed
        · cases followed
        · rename_i short
          rw [if_neg short]
          exact ih followed
      · cases followed

theorem locate_of_put {tree : FileTree} {place reached : Place} {entry : FileEntry} {path : String}
    {found : Option FileEntry} (noDirectory : entry ≠ .directory)
    (located : (tree.put place entry).locate path = .ok (reached, found)) :
    ∃ before, tree.locate path = .ok (reached, before) := by
  unfold locate at located ⊢
  split at located
  · cases located
  · rename_i noNul
    rw [if_neg noNul]
    split at located
    · cases located
    · rename_i nonempty
      rw [if_neg nonempty]
      split at located
      · cases located
      · rename_i short
        rw [if_neg short]
        split at located
        · exact follow_of_put noDirectory located
        · exact follow_of_put noDirectory located

theorem LeadsTo.of_put {tree : FileTree} {place : Place} {entry : FileEntry} {path key : String}
    (noDirectory : entry ≠ .directory) (leads : (tree.put place entry).LeadsTo path key) :
    tree.LeadsTo path key := by
  obtain ⟨reached, found, located, isKey⟩ := leads
  obtain ⟨before, located⟩ := locate_of_put noDirectory located
  exact ⟨reached, before, located, isKey⟩

theorem read_text_of_put {tree : FileTree} {place : Place} {entry : FileEntry} {path text : String}
    (noDirectory : entry ≠ .directory) (noText : entry ≠ .text text)
    (read : (tree.put place entry).readText path = .ok text) : tree.readText path = .ok text := by
  obtain ⟨reached, located⟩ := locate_of_find (find_of_read_text read)
  have held := entries_of_locate located (by simp)
  rw [entries_put] at held
  have apart : reached.key ≠ place.key := by
    intro same
    rw [if_pos same] at held
    exact noText (Option.some.inj held)
  rw [if_neg apart] at held
  obtain ⟨before, locatedBefore⟩ := locate_of_put noDirectory located
  have notGiven : ¬reached.isGiven = true := by
    intro given
    have directory := locate_found located
    rw [entryAt, if_pos given] at directory
    cases directory
  have same : before = some (.text text) := by
    rw [locate_found locatedBefore, entryAt, if_neg notGiven, held]
  rw [same] at locatedBefore
  rw [readText, find, locatedBefore]

/-! ### Writing -/

theorem put_of_write_text {tree changed : FileTree} {path content : String}
    (written : tree.writeText path content = .ok changed) :
    ∃ place, tree.LeadsTo path place.key ∧ changed = tree.put place (.text content) := by
  unfold writeText at written
  split at written
  · cases written
  · cases written
  · rename_i place found _ located
    cases written
    exact ⟨place, ⟨place, found, located, rfl⟩, rfl⟩

theorem refuses_iff {tree : FileTree} {path content : String} :
    tree.Refuses path ↔ ∃ failure, tree.writeText path content = .error failure := by
  constructor
  · intro refuses
    exact refuses content
  · intro refused other
    obtain ⟨failure, refused⟩ := refused
    unfold writeText at refused ⊢
    split at refused
    · exact ⟨_, rfl⟩
    · exact ⟨_, rfl⟩
    · cases refused

/-! ### Opening a database -/

theorem put_of_open_database {tree changed : FileTree} {path : String} {catalog : Catalog}
    (opened : tree.openDatabase path = .ok (catalog, changed)) :
    changed = tree ∨ ∃ place found, tree.locate path = .ok (place, found) ∧
      (found = none ∨ found = some (.text "")) ∧ changed = tree.put place (.database ∅) := by
  unfold openDatabase at opened
  dsimp only at opened
  split at opened
  · cases opened
    exact Or.inl rfl
  · split at opened
    · cases opened
    · cases opened
    · rename_i place located
      cases opened
      exact Or.inr ⟨place, none, located, Or.inl rfl, rfl⟩
    · cases opened
      exact Or.inl rfl
    · rename_i place content located
      split at opened
      · rename_i empty
        subst empty
        cases opened
        exact Or.inr ⟨place, some (.text ""), located, Or.inr rfl, rfl⟩
      · cases opened
    · cases opened

end FileTree

end BomEvidence
