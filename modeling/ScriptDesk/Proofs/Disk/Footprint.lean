import ScriptDesk.Proofs.Disk.Writing

/-!
# What actions leave on the disk

Making a directory, with or without those above it, puts directories where nothing was, and all else
stays as it is, also when it fails (`addsDirectories_makeParents`). So no file is changed and none
appears (`AddsDirectories.content?_eq`).

A file is written at the place where it can be opened (`put_of_placeToOpen`), and of the contents of
files no other is concerned (`content?_put`). Where a file must be new, nothing was before
(`node?_of_placeToCreate`).
-/

namespace ScriptDesk.Disk

variable {α : Type} [DecidableEq α]

theorem content?_put (disk : Disk α) {place : Place α} (hplace : place ≠ []) (content : Bytes)
    (other : Place α) :
    (disk.put place (.file content)).content? other =
      if other = place then some content else disk.content? other := by
  by_cases h : other = place
  · simp [content?, node?_put disk hplace, h]
  · simp [content?, node?_put disk hplace, h]

theorem put_put (disk : Disk α) (place : Place α) (first second : Node) :
    (disk.put place first).put place second = disk.put place second := by
  simp [put]

/-- Directories came where nothing was; all else is as it was. -/
structure AddsDirectories (disk disk' : Disk α) : Prop where
  /-- Relative paths are looked up from the same place. -/
  here_eq : disk'.here = disk.here
  /-- At each place is what was there, or a directory where nothing was. -/
  node?_cases : ∀ place, disk'.node? place = disk.node? place ∨
    disk.node? place = none ∧ disk'.node? place = some .directory

theorem AddsDirectories.refl (disk : Disk α) : disk.AddsDirectories disk :=
  ⟨rfl, fun _ => .inl rfl⟩

theorem AddsDirectories.trans {first second third : Disk α} (h : first.AddsDirectories second)
    (hlater : second.AddsDirectories third) : first.AddsDirectories third where
  here_eq := hlater.here_eq.trans h.here_eq
  node?_cases place := by
    rcases h.node?_cases place with hsame | ⟨hnone, hdirectory⟩
    · rw [← hsame]
      exact hlater.node?_cases place
    · rcases hlater.node?_cases place with hsame | ⟨habsent, -⟩
      · exact .inr ⟨hnone, hsame.trans hdirectory⟩
      · rw [hdirectory] at habsent
        cases habsent

/-- Files are neither changed nor made. -/
theorem AddsDirectories.content?_eq {disk disk' : Disk α} (h : disk.AddsDirectories disk')
    (place : Place α) : disk'.content? place = disk.content? place := by
  unfold content?
  rcases h.node?_cases place with hsame | ⟨hnone, hdirectory⟩
  · rw [hsame]
  · rw [hnone, hdirectory]

/-- What was there stays. -/
theorem AddsDirectories.node?_eq_some {disk disk' : Disk α} (h : disk.AddsDirectories disk')
    {place : Place α} {node : Node} (hnode : disk.node? place = some node) :
    disk'.node? place = some node := by
  rcases h.node?_cases place with hsame | ⟨hnone, -⟩
  · rw [hsame, hnode]
  · rw [hnone] at hnode
    cases hnode

/-- Where nothing is, nothing was. -/
theorem AddsDirectories.node?_eq_none {disk disk' : Disk α} (h : disk.AddsDirectories disk')
    {place : Place α} (hnone : disk'.node? place = none) : disk.node? place = none := by
  rcases h.node?_cases place with hsame | ⟨-, hdirectory⟩
  · rw [← hsame, hnone]
  · rw [hnone] at hdirectory
    cases hdirectory

variable [PathUnit α]

theorem addsDirectories_of_makeDirectory {disk disk' : Disk α} {path : Path α}
    (h : disk.makeDirectory path = .ok disk') : disk.AddsDirectories disk' := by
  unfold makeDirectory at h
  cases hloc : disk.locate path with
  | error e => rw [hloc] at h; cases h
  | ok target =>
    rw [hloc] at h
    cases target with
    | directory place => cases h
    | entry directory name closed =>
      simp only [bind, Except.bind] at h
      split at h
      · cases h
      · cases hnode : disk.node? (directory ++ [name]) with
        | some node => rw [hnode] at h; cases h
        | none =>
          rw [hnode] at h
          cases h
          refine ⟨rfl, fun place => ?_⟩
          rw [node?_put disk (by simp)]
          split
          · rename_i hplace
            exact .inr ⟨hplace ▸ hnode, rfl⟩
          · exact .inl rfl

/-- Those of the directories above that are missing are made first, and stay if a later one cannot
be made. -/
theorem addsDirectories_makeAncestors (disk : Disk α) (paths : List (Path α)) :
    disk.AddsDirectories (disk.makeAncestors paths).2 := by
  induction paths generalizing disk with
  | nil => exact .refl disk
  | cons path above ih =>
    rw [makeAncestors]
    split
    · rename_i hmade
      exact addsDirectories_of_makeDirectory hmade
    · split
      · exact .refl disk
      · have habove := ih disk
        split
        · rename_i hfailed
          rw [hfailed] at habove
          exact habove
        · rename_i hdone
          rw [hdone] at habove
          split
          · rename_i hmade
            exact habove.trans (addsDirectories_of_makeDirectory hmade)
          · exact habove
    · exact .refl disk

theorem addsDirectories_makeParents (disk : Disk α) (path : Path α) :
    disk.AddsDirectories (disk.makeParents path).2 := by
  unfold makeParents
  split
  · exact addsDirectories_makeAncestors disk _
  · exact .refl disk

/-! ### One file -/

/-- Where a file can be opened to write it; if it is to be `fresh` nothing may be there. -/
def placeToOpen (disk : Disk α) (path : Path α) (fresh : Bool) : Except DiskError (Place α) :=
  if fresh then disk.placeToCreate path else disk.placeToWrite path

theorem placeToWrite_of_placeToOpen {disk : Disk α} {path : Path α} {fresh : Bool} {place : Place α}
    (h : disk.placeToOpen path fresh = .ok place) : disk.placeToWrite path = .ok place := by
  cases fresh with
  | true => exact placeToWrite_of_placeToCreate h
  | false => exact h

/-- A file is written where it can be opened. -/
theorem put_of_placeToOpen (disk : Disk α) (path : Path α) (fresh : Bool) (content : Bytes) :
    (if fresh then disk.create path content else disk.write path content) =
      (disk.placeToOpen path fresh).map fun place => disk.put place (.file content) := by
  cases fresh with
  | true => exact bind_pure_comp _ _
  | false => exact bind_pure_comp _ _

/-- Where a file can be created nothing is. -/
theorem node?_of_placeToCreate {disk : Disk α} {path : Path α} {place : Place α}
    (h : disk.placeToCreate path = .ok place) : disk.node? place = none := by
  unfold placeToCreate at h
  cases hloc : disk.locate path with
  | error e => rw [hloc] at h; cases h
  | ok target =>
    rw [hloc] at h
    cases target with
    | directory place => cases h
    | entry directory name closed =>
      simp only [bind, Except.bind] at h
      split at h
      · cases h
      · split at h
        · cases h
        · cases hnode : disk.node? (directory ++ [name]) with
          | some node => rw [hnode] at h; cases h
          | none =>
            rw [hnode] at h
            cases h
            exact hnode

end ScriptDesk.Disk
