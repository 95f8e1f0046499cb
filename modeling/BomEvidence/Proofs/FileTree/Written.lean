import BomEvidence.FileTree
import BomEvidence.Proofs.Sorted.Laws

/-!
A text that was written is what is read next from the same path. Writing changes what
stands at one place, and no path leads through that place: a path leads through
directories, and a directory is not written over.
-/

namespace BomEvidence

namespace FileTree

theorem entry_at_put {tree : FileTree} {place : Place} {entry : FileEntry}
    (free : place.isGiven = false) : (tree.put place entry).entryAt place = some entry := by
  unfold entryAt put
  rw [free, if_neg Bool.false_ne_true, TextMap.get_insert, if_pos rfl]

theorem directory_at_put {tree : FileTree} {place other : Place} {entry : FileEntry}
    (taken : tree.entryAt place ≠ some .directory)
    (directory : tree.entryAt other = some .directory) :
    (tree.put place entry).entryAt other = some .directory := by
  unfold entryAt put at *
  by_cases given : other.isGiven = true
  · rw [if_pos given]
  · rw [if_neg given] at directory ⊢
    have free : ¬place.isGiven = true := by
      intro given
      rw [if_pos given] at taken
      exact taken rfl
    rw [if_neg free] at taken
    have apart : other.key ≠ place.key := by
      intro same
      rw [same] at directory
      exact taken directory
    rw [TextMap.get_insert, if_neg apart, directory]

theorem follow_put {tree : FileTree} {start place : Place} {names : List String}
    {found : Option FileEntry} (entry : FileEntry)
    (followed : tree.follow start names = .ok (place, found))
    (taken : tree.entryAt place ≠ some .directory) :
    (tree.put place entry).follow start names =
      .ok (place, (tree.put place entry).entryAt place) := by
  induction names generalizing start with
  | nil =>
      cases followed
      rfl
  | cons name rest ih =>
      unfold follow at followed ⊢
      split at followed
      · cases followed
      · rename_i directory
        rw [directory_at_put taken directory]
        dsimp only
        split at followed
        · cases followed
        · rename_i short
          rw [if_neg short]
          exact ih followed
      · cases followed

theorem follow_found {tree : FileTree} {start place : Place} {names : List String}
    {found : Option FileEntry} (followed : tree.follow start names = .ok (place, found)) :
    found = tree.entryAt place := by
  induction names generalizing start with
  | nil =>
      cases followed
      rfl
  | cons name rest ih =>
      unfold follow at followed
      split at followed
      · cases followed
      · split at followed
        · cases followed
        · exact ih followed
      · cases followed

theorem locate_put {tree : FileTree} {path : String} {place : Place} {found : Option FileEntry}
    (entry : FileEntry) (located : tree.locate path = .ok (place, found))
    (taken : found ≠ some .directory) :
    (tree.put place entry).locate path = .ok (place, some entry) := by
  have walked : ∀ {start : Place} {names : List String},
      tree.follow start names = .ok (place, found) →
      (tree.put place entry).follow start names = .ok (place, some entry) := by
    intro start names followed
    rw [follow_found followed] at taken
    have free : place.isGiven = false := by
      cases given : place.isGiven with
      | false => rfl
      | true =>
          rw [entryAt, if_pos given] at taken
          exact absurd rfl taken
    rw [follow_put entry followed taken, entry_at_put free]
  unfold locate at located ⊢
  split at located
  · cases located
  · rename_i noNul
    rw [if_neg noNul]
    split at located
    · cases located
    · rename_i nonempty
      rw [if_neg nonempty]
      split at located
      · cases located
      · rename_i short
        rw [if_neg short]
        split at located
        · exact walked located
        · exact walked located

theorem read_text_of_write_text {tree changed : FileTree} {path content : String}
    (written : tree.writeText path content = .ok changed) :
    changed.readText path = .ok content := by
  unfold writeText at written
  split at written
  · cases written
  · cases written
  · rename_i place found noDirectory located
    cases written
    unfold readText find
    rw [locate_put (.text content) located noDirectory]

/-! ### What writing a text over another one leaves -/

theorem entry_at_put_text {tree : FileTree} {place : Place} {old : String}
    (held : tree.entryAt place = some (.text old)) (new : String) (other : Place) :
    (other.key = place.key ∧ (∃ text, tree.entryAt other = some (.text text)) ∧
      (tree.put place (.text new)).entryAt other = some (.text new)) ∨
    (tree.put place (.text new)).entryAt other = tree.entryAt other := by
  have free : place.isGiven = false := by
    cases given : place.isGiven with
    | false => rfl
    | true =>
        rw [entryAt, if_pos given] at held
        cases held
  rw [entryAt, free, if_neg Bool.false_ne_true] at held
  by_cases given : other.isGiven = true
  · right
    rw [entryAt, entryAt, if_pos given, if_pos given]
  · by_cases same : other.key = place.key
    · left
      refine ⟨same, ⟨old, ?_⟩, ?_⟩
      · rw [entryAt, if_neg given, same, held]
      · rw [entryAt, if_neg given, put, TextMap.get_insert, if_pos same]
    · right
      rw [entryAt, entryAt, if_neg given, if_neg given, put, TextMap.get_insert, if_neg same]

theorem follow_put_text {tree : FileTree} {place : Place} {old : String}
    (held : tree.entryAt place = some (.text old)) (new : String) (start : Place)
    (names : List String) : (tree.put place (.text new)).follow start names =
      (tree.follow start names).map fun reached =>
        (reached.1, (tree.put place (.text new)).entryAt reached.1) := by
  induction names generalizing start with
  | nil => rfl
  | cons name rest ih =>
      unfold follow
      rcases entry_at_put_text held new start with ⟨_, ⟨text, before⟩, after⟩ | same
      · rw [before, after]
        rfl
      · rw [same]
        cases tree.entryAt start with
        | none => rfl
        | some entry =>
            cases entry with
            | directory =>
                dsimp only
                rw [ih]
                split <;> rfl
            | _ => rfl

theorem locate_put_text {tree : FileTree} {place : Place} {old : String}
    (held : tree.entryAt place = some (.text old)) (new path : String) :
    (tree.put place (.text new)).locate path = (tree.locate path).map fun reached =>
      (reached.1, (tree.put place (.text new)).entryAt reached.1) := by
  unfold locate
  split
  · rfl
  split
  · rfl
  split
  · rfl
  split
  · exact follow_put_text held new _ _
  · exact follow_put_text held new _ _

theorem locate_found {tree : FileTree} {path : String} {place : Place} {found : Option FileEntry}
    (located : tree.locate path = .ok (place, found)) : found = tree.entryAt place := by
  unfold locate at located
  split at located
  · cases located
  split at located
  · cases located
  split at located
  · cases located
  split at located
  · exact follow_found located
  · exact follow_found located

def areApart (tree : FileTree) (path other : String) : Bool :=
  match tree.locate path, tree.locate other with
  | .ok (place, _), .ok (elsewhere, _) => elsewhere.key ≠ place.key
  | _, _ => true

theorem locate_of_find {tree : FileTree} {path : String} {entry : FileEntry}
    (found : tree.find path = .ok entry) : ∃ place, tree.locate path = .ok (place, some entry) := by
  unfold find at found
  split at found
  · cases found
  · cases found
  · rename_i place held located
    cases found
    exact ⟨place, located⟩

theorem find_of_read_text {tree : FileTree} {path content : String}
    (read : tree.readText path = .ok content) : tree.find path = .ok (.text content) := by
  unfold readText at read
  split at read
  · cases read
  · rename_i found
    cases read
    exact found
  · cases read
  · cases read
  · cases read

theorem write_text_of_read_text {tree : FileTree} {path content : String}
    (read : tree.readText path = .ok content) (new : String) :
    ∃ place, tree.locate path = .ok (place, some (.text content)) ∧
      tree.writeText path new = .ok (tree.put place (.text new)) := by
  obtain ⟨place, located⟩ := locate_of_find (find_of_read_text read)
  refine ⟨place, located, ?_⟩
  rw [writeText, located]

/-- Writing over a text leaves what stands at all other paths. -/
theorem find_of_write_text {tree changed : FileTree} {path old new other : String}
    (read : tree.readText path = .ok old) (written : tree.writeText path new = .ok changed)
    (apart : tree.areApart path other = true) : changed.find other = tree.find other := by
  obtain ⟨place, located, wrote⟩ := write_text_of_read_text read new
  have isPut : tree.put place (.text new) = changed := Except.ok.inj (wrote.symm.trans written)
  subst isPut
  have held : tree.entryAt place = some (.text old) := (locate_found located).symm
  unfold find
  rw [locate_put_text held new other]
  cases ends : tree.locate other with
  | error failure => rfl
  | ok reached =>
      obtain ⟨elsewhere, beside⟩ := reached
      have kept : (tree.put place (.text new)).entryAt elsewhere = beside := by
        rcases entry_at_put_text held new elsewhere with ⟨same, _⟩ | same
        · rw [areApart, located, ends] at apart
          exact absurd same (of_decide_eq_true apart)
        · rw [same]
          exact (locate_found ends).symm
      dsimp only [Except.map]
      rw [kept]

end FileTree

end BomEvidence
