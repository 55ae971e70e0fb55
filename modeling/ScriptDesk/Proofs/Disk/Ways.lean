import ScriptDesk.Proofs.Disk.Footprint
import ScriptDesk.Proofs.Path.Parts

/-!
# Where paths lead

A disk follows the names of a path, from the root or from where relative paths begin
(`Disk.follow`). A path that may be looked up at all leads to a directory, or to a name in one
(`locate_cases`); a name joined to a path leads to this name in the directory to which the path
leads (`locate_join`).

That a file is not found says that a name on its way is missing from the directory to which the
names before it lead (`Disk.Lacks`, `readText_eq_notFound_iff`). A directory that was made with all
those above it is there, so its making never fails because something is not found
(`makeAncestors_stands`, `makeParents_stands`), and one that is there already is left as it is
(`makeParents_of_follow`).
-/

namespace ScriptDesk

open Text PathUnit

variable {α : Type} [PathUnit α]

/-! ### Following a path -/

/-- A path that may be looked up: it names something, has no NUL and is short enough. -/
structure Path.IsLegal (path : Path α) : Prop where
  /-- It is not empty. -/
  ne_nil : path ≠ []
  /-- It has no NUL. -/
  no_nul : nul ∉ path
  /-- It is short enough. -/
  short : (bytes path).length ≤ Disk.maxPath

/-- The beginning of a legal path is legal. -/
theorem Path.IsLegal.of_prefix {path front : Path α} (h : path.IsLegal) (hfront : front <+: path)
    (hne : front ≠ []) : front.IsLegal := by
  obtain ⟨rest, rfl⟩ := hfront
  refine ⟨hne, fun hmem => h.no_nul (List.mem_append_left _ hmem), ?_⟩
  have hshort := h.short
  rw [bytes_append, List.length_append] at hshort
  omega

variable [DecidableEq α]

instance (path : Path α) : Decidable path.IsLegal :=
  decidable_of_iff (path ≠ [] ∧ nul ∉ path ∧ (bytes path).length ≤ Disk.maxPath)
    ⟨fun h => ⟨h.1, h.2.1, h.2.2⟩, fun h => ⟨h.ne_nil, h.no_nul, h.short⟩⟩

namespace Disk

/-- The place from which a path is looked up. -/
def origin (disk : Disk α) (path : Path α) : Place α :=
  if Path.isAbsolute path then [] else disk.here

/-- The directory to which a path leads. -/
def follow (disk : Disk α) (path : Path α) : Except DiskError (Place α) :=
  disk.walk (disk.origin path) path.names

theorem walk_append (disk : Disk α) (directory : Place α) (front rest : List (Text α)) :
    disk.walk directory (front ++ rest) =
      (disk.walk directory front).bind fun place => disk.walk place rest := by
  induction front generalizing directory with
  | nil => rfl
  | cons name front ih =>
    rw [List.cons_append, walk, walk]
    split
    · exact ih _
    · split
      · rfl
      · cases hnode : disk.node? (directory ++ [name]) with
        | none => rfl
        | some node =>
          cases node with
          | file content => rfl
          | directory => exact ih _

/-- A way leads on to a name if that is a directory. -/
theorem walk_singleton_eq_ok_iff {disk : Disk α} {directory place : Place α} {name : Text α}
    (h : name ≠ Path.up) :
    disk.walk directory [name] = .ok place ↔
      isTooLong name = false ∧ disk.node? (directory ++ [name]) = some .directory ∧
        place = directory ++ [name] := by
  rw [walk, if_neg h]
  cases hlong : isTooLong name with
  | true => simp
  | false =>
    cases hnode : disk.node? (directory ++ [name]) with
    | none => simp
    | some node =>
      cases node with
      | file content => simp
      | directory => simp [walk, eq_comm]

/-- It does not find one just if there is nothing. -/
theorem walk_singleton_eq_notFound_iff {disk : Disk α} {directory : Place α} {name : Text α}
    (h : name ≠ Path.up) :
    disk.walk directory [name] = .error .notFound ↔
      isTooLong name = false ∧ disk.node? (directory ++ [name]) = none := by
  rw [walk, if_neg h]
  cases hlong : isTooLong name with
  | true => simp
  | false =>
    cases hnode : disk.node? (directory ++ [name]) with
    | none => simp
    | some node =>
      cases node with
      | file content => simp
      | directory => simp [walk]

theorem walk_up (disk : Disk α) (directory : Place α) :
    disk.walk directory [Path.up] = .ok directory.dropLast := by
  rw [walk, if_pos rfl, walk]

/-! ### Looking up -/

/-- A path that is not legal is not looked up. -/
theorem locate_of_not_isLegal (disk : Disk α) {path : Path α} (h : ¬path.IsLegal)
    (hne : path ≠ []) :
    disk.locate path = .error .nulInName ∨ disk.locate path = .error .nameTooLong := by
  unfold locate
  by_cases hnul : nul ∈ path
  · refine .inl ?_
    simp [hnul]
    rfl
  · have hlong : maxPath < (bytes path).length :=
      Nat.lt_of_not_le fun hshort => h ⟨hne, hnul, hshort⟩
    refine .inr ?_
    simp [hnul, hne, hlong]
    rfl

theorem isLegal_of_locate {disk : Disk α} {path : Path α} {target : Target α}
    (h : disk.locate path = .ok target) : path.IsLegal := by
  by_cases hempty : path = []
  · subst hempty
    cases h
  · by_cases hlegal : path.IsLegal
    · exact hlegal
    · rcases disk.locate_of_not_isLegal hlegal hempty with hlocate | hlocate <;>
        (rw [hlocate] at h; cases h)

theorem isLegal_of_locate_notFound {disk : Disk α} {path : Path α} (hne : path ≠ [])
    (h : disk.locate path = .error .notFound) : path.IsLegal := by
  by_cases hlegal : path.IsLegal
  · exact hlegal
  · rcases disk.locate_of_not_isLegal hlegal hne with hlocate | hlocate <;>
      (rw [h] at hlocate; cases hlocate)

/-- A legal path leads to a directory as a whole, or to the last of its names. -/
theorem locate_cases (disk : Disk α) {path : Path α} (h : path.IsLegal) :
    (∀ last ∈ path.names.getLast?, last = Path.up ∨ (path.cutAt slash).getLast? = some [dot]) ∧
        disk.locate path = (disk.follow path).map .directory ∨
      ∃ front last, path.names = front ++ [last] ∧ last ≠ Path.up ∧
        disk.locate path = (disk.walk (disk.origin path) front).map fun place =>
          .entry place last ((path.cutAt slash).getLast? == some []) := by
  have hnul : path.contains nul = false := by simpa using h.no_nul
  have hempty : path.isEmpty = false := by simpa using h.ne_nil
  have hlong : ¬maxPath < (bytes path).length := Nat.not_lt.mpr h.short
  rcases List.eq_nil_or_concat path.names with hnames | ⟨front, last, hnames⟩
  · refine .inl ⟨by simp [hnames], ?_⟩
    have hlast :
        (List.filter (fun part => !Path.isIdle part) (path.cutAt slash)).getLast? = none := by
      rw [← Path.names, hnames]
      rfl
    have hfollow : disk.follow path = .ok (disk.origin path) := by
      rw [follow, hnames, walk]
    rw [hfollow]
    unfold locate
    simp only [hnul, hempty, hlong, Bool.false_eq_true, if_false, bind, Except.bind, hlast]
    rfl
  · rw [List.concat_eq_append] at hnames
    have hlast : (List.filter (fun part => !Path.isIdle part) (path.cutAt slash)).getLast? =
        some last := by
      rw [← Path.names, hnames, List.getLast?_concat]
    have hfront : (List.filter (fun part => !Path.isIdle part) (path.cutAt slash)).dropLast =
        front := by
      rw [← Path.names, hnames, List.dropLast_concat]
    unfold locate
    simp only [hnul, hempty, hlong, Bool.false_eq_true, if_false, bind, Except.bind, hlast, hfront]
    split
    · rename_i hdirectory
      simp only [Bool.or_eq_true, decide_eq_true_eq, beq_iff_eq] at hdirectory
      refine .inl ⟨by simpa [hnames] using hdirectory, ?_⟩
      change _ = (disk.walk (disk.origin path) path.names).map Target.directory
      rw [← Path.names, ← origin]
      cases disk.walk (disk.origin path) path.names <;> rfl
    · rename_i hdirectory
      simp only [Bool.or_eq_true, decide_eq_true_eq, beq_iff_eq, not_or] at hdirectory
      refine .inr ⟨front, last, hnames, hdirectory.1, ?_⟩
      rw [← origin]
      cases disk.walk (disk.origin path) front <;> rfl

/-- A name joined to a path leads to this name in the directory to which the path leads. -/
theorem locate_join (disk : Disk α) {directory : Path α} {name : Text α} (hname : Path.IsName name)
    (h : (Path.join directory name).IsLegal) :
    disk.locate (Path.join directory name) =
      (disk.follow directory).map fun place => .entry place name false := by
  obtain ⟨parts, hcut, -⟩ := Path.exists_cutAt_join directory hname
  have hnames := Path.names_join directory hname
  have horigin : disk.origin (Path.join directory name) = disk.origin directory := by
    rw [origin, Path.isAbsolute_join directory hname, origin]
  rcases disk.locate_cases h with ⟨hlast, -⟩ | ⟨front, last, hfront, -, hlocate⟩
  · rw [hnames, hcut] at hlast
    rcases hlast name (List.getLast?_concat ..) with hup | hdot
    · exact absurd hup hname.ne_up
    · rw [List.getLast?_concat] at hdot
      cases hdot
      exact absurd hname.counts (by simp)
  · rw [hnames] at hfront
    obtain ⟨rfl, hlast⟩ := List.append_inj' hfront rfl
    cases hlast
    have hopen : (some name == some []) = false := by
      cases name with
      | nil => cases hname.counts
      | cons c rest => rfl
    rw [hlocate, horigin, hcut, List.getLast?_concat, hopen]
    rfl

/-- So a file is created there if the name is short enough and nothing has it. -/
theorem placeToCreate_join {disk : Disk α} {directory : Path α} {name : Text α}
    (hname : Path.IsName name) (h : (Path.join directory name).IsLegal) :
    disk.placeToCreate (Path.join directory name) =
      (disk.follow directory).bind fun place =>
        if isTooLong name then .error .nameTooLong
        else if (disk.node? (place ++ [name])).isSome then .error .exists
        else .ok (place ++ [name]) := by
  unfold placeToCreate
  rw [disk.locate_join hname h]
  cases disk.follow directory with
  | error e => rfl
  | ok place =>
    simp only [Except.map, bind, Except.bind]
    cases isTooLong name with
    | true => rfl
    | false => cases disk.node? (place ++ [name]) <;> rfl

theorem placeToCreate_join_iff {disk : Disk α} {directory : Path α} {name : Text α}
    (hname : Path.IsName name) {target : Place α} :
    disk.placeToCreate (Path.join directory name) = .ok target ↔
      (Path.join directory name).IsLegal ∧ isTooLong name = false ∧
        ∃ place, disk.follow directory = .ok place ∧ target = place ++ [name] ∧
          disk.node? target = none := by
  constructor
  · intro h
    have hnone := node?_of_placeToCreate h
    obtain ⟨place, last, hleads, rfl⟩ := leadsTo_of_placeToWrite (placeToWrite_of_placeToCreate h)
    have hlegal := isLegal_of_locate hleads.located
    have hlocated := hleads.located
    rw [disk.locate_join hname hlegal] at hlocated
    cases hfollow : disk.follow directory with
    | error e =>
      rw [hfollow] at hlocated
      cases hlocated
    | ok directory =>
      rw [hfollow] at hlocated
      cases hlocated
      exact ⟨hlegal, hleads.short, place, rfl, rfl, hnone⟩
  · rintro ⟨hlegal, hshort, place, hfollow, rfl, hnone⟩
    rw [placeToCreate_join hname hlegal, hfollow, Except.bind, hshort, hnone]
    rfl

theorem walk_ne_exists (disk : Disk α) (directory : Place α) (names : List (Text α)) :
    disk.walk directory names ≠ .error .exists := by
  induction names generalizing directory with
  | nil => simp [walk]
  | cons name names ih =>
    rw [walk]
    split
    · exact ih _
    · split
      · simp
      · split
        · simp
        · simp
        · exact ih _

/-- In a directory, something has the name. -/
def Holds (disk : Disk α) (directory : Path α) (name : Text α) : Prop :=
  (Path.join directory name).IsLegal ∧ isTooLong name = false ∧
    ∃ place, disk.follow directory = .ok place ∧ (disk.node? (place ++ [name])).isSome

/-- It is not created if something has the name. -/
theorem placeToCreate_join_eq_exists_iff {disk : Disk α} {directory : Path α} {name : Text α}
    (hname : Path.IsName name) :
    disk.placeToCreate (Path.join directory name) = .error .exists ↔ disk.Holds directory name := by
  unfold Holds
  by_cases hlegal : (Path.join directory name).IsLegal
  · rw [placeToCreate_join hname hlegal, and_iff_right hlegal]
    cases hfollow : disk.follow directory with
    | error e =>
      have he : e ≠ .exists := fun he => disk.walk_ne_exists _ _ (hfollow.trans (he ▸ rfl))
      simp [Except.bind, he]
    | ok place =>
      cases isTooLong name with
      | true => simp [Except.bind]
      | false =>
        cases hnode : disk.node? (place ++ [name]) <;> simp [Except.bind, hnode]
  · unfold placeToCreate
    rcases disk.locate_of_not_isLegal hlegal (Path.join_ne_nil directory hname) with
      hlocate | hlocate <;> simp [hlocate, hlegal, bind, Except.bind]

/-- That something is not found says that the directory is missing. -/
theorem follow_of_placeToCreate_join {disk : Disk α} {directory : Path α} {name : Text α}
    (hname : Path.IsName name)
    (h : disk.placeToCreate (Path.join directory name) = .error .notFound) :
    disk.follow directory = .error .notFound := by
  by_cases hlegal : (Path.join directory name).IsLegal
  · rw [placeToCreate_join hname hlegal] at h
    cases hfollow : disk.follow directory with
    | error e =>
      rw [hfollow] at h
      cases h
      rfl
    | ok place =>
      rw [hfollow, Except.bind] at h
      split at h
      · cases h
      · split at h <;> cases h
  · unfold placeToCreate at h
    rcases disk.locate_of_not_isLegal hlegal (Path.join_ne_nil directory hname) with
      hlocate | hlocate <;> simp [hlocate, bind, Except.bind] at h

/-- A way to a directory stays one when something is put where no directory is. -/
theorem follow_put {disk : Disk α} {place : Place α} (hplace : place ≠ [])
    (hfree : disk.node? place ≠ some .directory) (node : Node) {path : Path α} {directory : Place α}
    (h : disk.follow path = .ok directory) :
    (disk.put place node).follow path = .ok directory :=
  walk_put hplace hfree node _ _ _ h

/-! ### What is missing -/

/-- A name on the way of the path is missing from the directory to which those before it lead. -/
def Lacks (disk : Disk α) (path : Path α) : Prop :=
  ∃ before name after place, path.names = before ++ name :: after ∧ name ≠ Path.up ∧
    isTooLong name = false ∧ disk.walk (disk.origin path) before = .ok place ∧
    disk.node? (place ++ [name]) = none

theorem walk_eq_notFound_iff {disk : Disk α} {directory : Place α} {names : List (Text α)} :
    disk.walk directory names = .error .notFound ↔
      ∃ before name after place, names = before ++ name :: after ∧ name ≠ Path.up ∧
        isTooLong name = false ∧ disk.walk directory before = .ok place ∧
        disk.node? (place ++ [name]) = none := by
  constructor
  · intro h
    induction names generalizing directory with
    | nil => cases h
    | cons name names ih =>
      by_cases hup : name = Path.up
      · rw [walk, if_pos hup] at h
        obtain ⟨before, missing, after, place, rfl, hrest⟩ := ih h
        refine ⟨name :: before, missing, after, place, rfl, ?_⟩
        rwa [walk, if_pos hup]
      · cases hlong : isTooLong name with
        | true => simp [walk, hup, hlong] at h
        | false =>
          rw [walk, if_neg hup, if_neg (by simp [hlong])] at h
          cases hnode : disk.node? (directory ++ [name]) with
          | none => exact ⟨[], name, names, directory, rfl, hup, hlong, rfl, hnode⟩
          | some node =>
            rw [hnode] at h
            cases node with
            | file content => cases h
            | directory =>
              obtain ⟨before, missing, after, place, rfl, hmissing, hshort, hwalk, hnone⟩ := ih h
              refine ⟨name :: before, missing, after, place, rfl, hmissing, hshort, ?_, hnone⟩
              rw [walk, if_neg hup, if_neg (by simp [hlong]), hnode]
              exact hwalk
  · rintro ⟨before, name, after, place, rfl, hup, hshort, hwalk, hnone⟩
    have hname : disk.walk place [name] = .error .notFound :=
      (walk_singleton_eq_notFound_iff hup).mpr ⟨hshort, hnone⟩
    rw [walk_append, hwalk, ← List.singleton_append]
    change disk.walk place ([name] ++ after) = _
    rw [walk_append, hname]
    rfl

theorem follow_eq_notFound_iff {disk : Disk α} {path : Path α} :
    disk.follow path = .error .notFound ↔ disk.Lacks path :=
  walk_eq_notFound_iff

/-- Of a name in a directory nothing is found just if it is not there. -/
theorem readBytes_of_entry {disk : Disk α} {path : Path α} {place : Place α} {name : Text α}
    {closed : Bool} (h : disk.locate path = .ok (.entry place name closed)) :
    disk.readBytes path = .error .notFound ↔
      isTooLong name = false ∧ disk.node? (place ++ [name]) = none := by
  unfold readBytes
  simp only [h, bind, Except.bind]
  cases hlong : isTooLong name with
  | true => simp [throw, throwThe, MonadExceptOf.throw]
  | false =>
    cases hnode : disk.node? (place ++ [name]) with
    | none => simp [throw, throwThe, MonadExceptOf.throw]
    | some node =>
      cases node with
      | directory => simp [throw, throwThe, MonadExceptOf.throw]
      | file content =>
        cases closed <;> simp [throw, throwThe, MonadExceptOf.throw, pure, Except.pure]

theorem readBytes_of_error {disk : Disk α} {path : Path α} {e : DiskError}
    (h : disk.locate path = .error e) : disk.readBytes path = .error e := by
  unfold readBytes
  rw [h]
  rfl

theorem readBytes_of_directory {disk : Disk α} {path : Path α} {place : Place α}
    (h : disk.locate path = .ok (.directory place)) :
    disk.readBytes path = .error .isDirectory := by
  unfold readBytes
  rw [h]
  rfl

/-- **A file is not found** just if a name on its way is missing, or if the path is empty. -/
theorem readBytes_eq_notFound_iff {disk : Disk α} {path : Path α} :
    disk.readBytes path = .error .notFound ↔ path = [] ∨ path.IsLegal ∧ disk.Lacks path := by
  by_cases hempty : path = []
  · subst hempty
    exact ⟨fun _ => .inl rfl, fun _ => rfl⟩
  rw [← follow_eq_notFound_iff, or_iff_right hempty]
  by_cases hlegal : path.IsLegal
  · rw [and_iff_right hlegal]
    rcases disk.locate_cases hlegal with ⟨-, hlocate⟩ | ⟨front, last, hnames, hup, hlocate⟩
    · cases hfollow : disk.follow path with
      | error e =>
        rw [hfollow] at hlocate
        rw [readBytes_of_error hlocate]
        simp
      | ok place =>
        rw [hfollow] at hlocate
        rw [readBytes_of_directory hlocate]
        simp
    · rw [follow, hnames, walk_append]
      cases hwalk : disk.walk (disk.origin path) front with
      | error e =>
        rw [hwalk] at hlocate
        rw [readBytes_of_error hlocate]
        simp [Except.bind]
      | ok place =>
        rw [hwalk] at hlocate
        rw [readBytes_of_entry hlocate, ← walk_singleton_eq_notFound_iff hup]
        rfl
  · rcases disk.locate_of_not_isLegal hlegal hempty with hlocate | hlocate <;>
      simp [readBytes_of_error hlocate, hlegal]

theorem readText_eq_notFound_iff {disk : Disk α} {path : Path α} :
    disk.readText path = .error .notFound ↔ path = [] ∨ path.IsLegal ∧ disk.Lacks path := by
  rw [← readBytes_eq_notFound_iff]
  unfold readText
  cases disk.readBytes path with
  | error e => simp [bind, Except.bind]
  | ok bytes =>
    simp only [bind, Except.bind]
    cases Text.ofBytes? bytes with
    | none => simp [throw, throwThe, MonadExceptOf.throw]
    | some text => simp [pure, Except.pure]

/-! ### Making directories -/

theorem isDirectory_of_directory {disk : Disk α} {path : Path α} {place : Place α}
    (h : disk.locate path = .ok (.directory place)) : disk.isDirectory path = true := by
  unfold isDirectory
  rw [h]

theorem isDirectory_of_entry {disk : Disk α} {path : Path α} {place : Place α} {name : Text α}
    {closed : Bool} (h : disk.locate path = .ok (.entry place name closed)) :
    disk.isDirectory path = (disk.node? (place ++ [name]) == some .directory) := by
  unfold isDirectory
  rw [h]

theorem makeDirectory_of_error {disk : Disk α} {path : Path α} {e : DiskError}
    (h : disk.locate path = .error e) : disk.makeDirectory path = .error e := by
  unfold makeDirectory
  rw [h]
  rfl

theorem makeDirectory_of_directory {disk : Disk α} {path : Path α} {place : Place α}
    (h : disk.locate path = .ok (.directory place)) : disk.makeDirectory path = .error .exists := by
  unfold makeDirectory
  rw [h]
  rfl

theorem makeDirectory_of_entry {disk : Disk α} {path : Path α} {place : Place α} {name : Text α}
    {closed : Bool} (h : disk.locate path = .ok (.entry place name closed)) :
    disk.makeDirectory path =
      if isTooLong name then .error .nameTooLong
      else if (disk.node? (place ++ [name])).isSome then .error .exists
      else .ok (disk.put (place ++ [name]) .directory) := by
  unfold makeDirectory
  simp only [h, bind, Except.bind]
  cases isTooLong name with
  | true => rfl
  | false => cases disk.node? (place ++ [name]) <;> rfl

/-- A legal path that is followed to a directory leads to one, which cannot be made again. -/
theorem isDirectory_of_follow {disk : Disk α} {path : Path α} {place : Place α} (h : path.IsLegal)
    (hfollow : disk.follow path = .ok place) :
    disk.isDirectory path = true ∧ disk.makeDirectory path = .error .exists := by
  rcases disk.locate_cases h with ⟨-, hlocate⟩ | ⟨front, last, hnames, hup, hlocate⟩
  · rw [hfollow] at hlocate
    exact ⟨isDirectory_of_directory hlocate, makeDirectory_of_directory hlocate⟩
  · rw [follow, hnames, walk_append] at hfollow
    cases hwalk : disk.walk (disk.origin path) front with
    | error e =>
      rw [hwalk] at hfollow
      cases hfollow
    | ok directory =>
      rw [hwalk] at hfollow hlocate
      obtain ⟨hshort, hnode, -⟩ := (walk_singleton_eq_ok_iff hup).mp hfollow
      refine ⟨(isDirectory_of_entry hlocate).trans (by simp [hnode]), ?_⟩
      rw [makeDirectory_of_entry hlocate, hshort, hnode]
      rfl

/-- A path that leads to a directory is followed without missing a name. -/
theorem follow_of_isDirectory {disk : Disk α} {path : Path α} (h : disk.isDirectory path = true) :
    disk.follow path ≠ .error .notFound := by
  obtain ⟨target, htarget⟩ : ∃ target, disk.locate path = .ok target := by
    unfold isDirectory at h
    cases hlocate : disk.locate path with
    | error e =>
      rw [hlocate] at h
      cases h
    | ok target => exact ⟨target, rfl⟩
  rcases disk.locate_cases (isLegal_of_locate htarget) with
    ⟨-, hlocate⟩ | ⟨front, last, hnames, hup, hlocate⟩
  · intro hfollow
    rw [hfollow, htarget] at hlocate
    cases hlocate
  · rw [follow, hnames, walk_append]
    cases hwalk : disk.walk (disk.origin path) front with
    | error e =>
      rw [hwalk, htarget] at hlocate
      cases hlocate
    | ok directory =>
      rw [hwalk] at hlocate
      rw [isDirectory_of_entry hlocate, beq_iff_eq] at h
      change disk.walk directory [last] ≠ .error .notFound
      rw [ne_eq, walk_singleton_eq_notFound_iff hup, h]
      simp

/-- A directory that was made is there. -/
theorem isDirectory_of_makeDirectory {disk disk' : Disk α} {path : Path α}
    (h : disk.makeDirectory path = .ok disk') : disk'.isDirectory path = true := by
  cases hlocate : disk.locate path with
  | error e =>
    rw [makeDirectory_of_error hlocate] at h
    cases h
  | ok target =>
    cases target with
    | directory place =>
      rw [makeDirectory_of_directory hlocate] at h
      cases h
    | entry place name closed =>
      rw [makeDirectory_of_entry hlocate] at h
      split at h
      · cases h
      · split at h
        · cases h
        · rename_i hfree
          cases h
          have hnone : disk.node? (place ++ [name]) = none := by simpa using hfree
          have hlater : (disk.put (place ++ [name]) .directory).locate path = _ :=
            locate_put (by simp) (by simp [hnone]) .directory hlocate
          rw [isDirectory_of_entry hlater, node?_put disk (by simp), if_pos rfl]
          rfl

theorem locate_of_makeDirectory {disk : Disk α} {path : Path α}
    (h : disk.makeDirectory path = .error .notFound) : disk.locate path = .error .notFound := by
  cases hlocate : disk.locate path with
  | error e =>
    rw [makeDirectory_of_error hlocate] at h
    cases h
    rfl
  | ok target =>
    cases target with
    | directory place =>
      rw [makeDirectory_of_directory hlocate] at h
      cases h
    | entry place name closed =>
      rw [makeDirectory_of_entry hlocate] at h
      split at h
      · cases h
      · split at h <;> cases h

/-- If a directory cannot be made because something is not found, the one above it is missing. -/
theorem follow_of_makeDirectory {disk : Disk α} {path : Path α}
    (htrimmed : Path.trimmed path = path) (hne : path ≠ [])
    (h : disk.makeDirectory path = .error .notFound) :
    ∃ directory, Path.parent? path = some directory ∧
      disk.follow directory = .error .notFound := by
  have hmissed := locate_of_makeDirectory h
  have hlegal := isLegal_of_locate_notFound hne hmissed
  rcases Path.names_cases path with hnames | ⟨directory, last, hparent, hnames, habsolute⟩
  · rcases disk.locate_cases hlegal with ⟨-, hlocate⟩ | ⟨front, last, hlast, -⟩
    · rw [hmissed, follow, hnames] at hlocate
      cases hlocate
    · rw [hnames] at hlast
      simp at hlast
  · refine ⟨directory, hparent, ?_⟩
    have horigin : disk.origin path = disk.origin directory := by
      rw [origin, habsolute, origin]
    have hlast : path.names.getLast? = some last := by
      rw [hnames, List.getLast?_concat]
    rcases disk.locate_cases hlegal with ⟨hends, hlocate⟩ | ⟨front, name, hfront, -, hlocate⟩
    · -- the path ends with its last name, which counts, so this one leads up
      have hup : last = Path.up := by
        rcases hends last hlast with hup | hdot
        · exact hup
        · rw [Path.getLast?_cutAt_of_trimmed htrimmed hlast] at hdot
          cases hdot
          have hmem : [dot] ∈ path.names := List.mem_of_getLast? hlast
          exact absurd (List.mem_filter.mp hmem).2 (by simp)
      rw [hmissed, follow, hnames, walk_append, horigin, hup] at hlocate
      cases hfollow : disk.walk (disk.origin directory) directory.names with
      | error e =>
        rw [hfollow] at hlocate
        cases hlocate
        exact hfollow
      | ok place =>
        rw [hfollow] at hlocate
        change _ = (disk.walk place [Path.up]).map Target.directory at hlocate
        rw [walk_up] at hlocate
        cases hlocate
    · rw [hnames] at hfront
      obtain ⟨rfl, -⟩ := List.append_inj' hfront rfl
      rw [hmissed, horigin] at hlocate
      change disk.walk (disk.origin directory) directory.names = _
      cases hfollow : disk.walk (disk.origin directory) directory.names with
      | error e =>
        rw [hfollow] at hlocate
        cases hlocate
        rfl
      | ok place =>
        rw [hfollow] at hlocate
        cases hlocate

theorem makeAncestors_of_ok {disk disk' : Disk α} {path : Path α}
    (h : disk.makeDirectory path = .ok disk') (above : List (Path α)) :
    disk.makeAncestors (path :: above) = (.ok (), disk') := by
  rw [makeAncestors, h]

/-- Nothing above a directory is made if something else than those stands in its way. -/
theorem makeAncestors_of_error {disk : Disk α} {path : Path α} {e : DiskError}
    (h : disk.makeDirectory path = .error e) (he : e ≠ .notFound) (above : List (Path α)) :
    disk.makeAncestors (path :: above) =
      (if disk.isDirectory path then .ok () else .error e, disk) := by
  rw [makeAncestors, h]
  cases e with
  | notFound => exact absurd rfl he
  | _ => rfl

/-- Where something else than a missing directory stands in the way, the outcome says whether the
directory is there. -/
theorem isDirectory_of_standing (disk : Disk α) (path : Path α) {e : DiskError} (he : e ≠ .notFound)
    {result : Except DiskError Unit}
    (h : (if disk.isDirectory path then .ok () else .error e) = result) :
    result ≠ .error .notFound ∧ (result = .ok () → disk.isDirectory path = true) := by
  subst h
  cases disk.isDirectory path with
  | true => exact ⟨nofun, fun _ => rfl⟩
  | false => exact ⟨fun h => he (by simpa using h), nofun⟩

/-- **A directory that was made with all those above it is there**, and its making never fails
because something is not found. -/
theorem makeAncestors_stands (steps : Nat) {path : Path α} (htrimmed : Path.trimmed path = path)
    (disk : Disk α) :
    (disk.makeAncestors (ancestors steps path)).1 ≠ .error .notFound ∧
      (ancestors steps path ≠ [] → (disk.makeAncestors (ancestors steps path)).1 = .ok () →
        (disk.makeAncestors (ancestors steps path)).2.isDirectory path = true) := by
  induction steps generalizing path disk with
  | zero => exact ⟨by simp [ancestors, makeAncestors], fun h => absurd rfl h⟩
  | succ steps ih =>
    rw [ancestors]
    split
    · exact ⟨by simp [makeAncestors], fun h => absurd rfl h⟩
    rename_i hempty
    have hne : path ≠ [] := by simpa using hempty
    cases hmade : disk.makeDirectory path with
    | ok disk' =>
      rw [makeAncestors_of_ok hmade]
      exact ⟨by simp, fun _ _ => isDirectory_of_makeDirectory hmade⟩
    | error e =>
      by_cases he : e = .notFound
      · subst he
        obtain ⟨directory, hparent, -⟩ := follow_of_makeDirectory htrimmed hne hmade
        obtain ⟨hfound, hthere⟩ := ih (Path.trimmed_of_parent? hparent) disk
        rw [hparent, Option.map_some, Option.getD_some, makeAncestors, hmade]
        by_cases habove : ancestors steps directory = []
        · simp [habove]
        · have hnone : (ancestors steps directory).isEmpty = false := by simpa using habove
          simp only [hnone, Bool.false_eq_true, if_false]
          cases hrec : disk.makeAncestors (ancestors steps directory) with
          | mk result made =>
            rw [hrec] at hfound hthere
            cases result with
            | error e => exact ⟨hfound, fun _ => by simp⟩
            | ok u =>
              -- the directory above is there now, so it does not stop the second attempt
              have hagain : made.makeDirectory path ≠ .error .notFound := by
                intro hagain
                obtain ⟨other, hother, hmissing⟩ := follow_of_makeDirectory htrimmed hne hagain
                rw [hparent] at hother
                cases hother
                exact follow_of_isDirectory (hthere habove rfl) hmissing
              cases hsecond : made.makeDirectory path with
              | ok disk' =>
                simp only [hsecond]
                exact ⟨by simp, fun _ _ => isDirectory_of_makeDirectory hsecond⟩
              | error e =>
                simp only [hsecond]
                obtain ⟨hfound, hthere⟩ :=
                  isDirectory_of_standing made path (fun he => hagain (he ▸ hsecond)) rfl
                exact ⟨hfound, fun _ => hthere⟩
      · rw [makeAncestors_of_error hmade he]
        obtain ⟨hfound, hthere⟩ := isDirectory_of_standing disk path he rfl
        exact ⟨hfound, fun _ => hthere⟩

theorem follow_trimmed (disk : Disk α) (path : Path α) :
    disk.follow (Path.trimmed path) = disk.follow path := by
  obtain ⟨hnames, habsolute⟩ := Path.names_trimmed path
  rw [follow, follow, hnames, origin, origin, habsolute]

theorem makeParents_join (disk : Disk α) (directory : Path α) {name : Text α}
    (hname : Path.IsName name) :
    disk.makeParents (Path.join directory name) =
      disk.makeDirectories (Path.trimmed directory) := by
  rw [makeParents, Path.parent?_join directory hname]

/-- **The directory of a new file is made with all those above it.** Its making never fails because
something is not found, and when it is done no name on the way to it is missing. -/
theorem makeParents_stands (disk : Disk α) (directory : Path α) {name : Text α}
    (hname : Path.IsName name) :
    (disk.makeParents (Path.join directory name)).1 ≠ .error .notFound ∧
      ((disk.makeParents (Path.join directory name)).1 = .ok () →
        (disk.makeParents (Path.join directory name)).2.follow directory ≠ .error .notFound) := by
  rw [makeParents_join disk directory hname, makeDirectories, ← follow_trimmed]
  obtain ⟨hfound, hthere⟩ := makeAncestors_stands ((Path.trimmed directory).length + 1)
    (Path.trimmed_of_parent? (Path.parent?_join directory hname)) disk
  refine ⟨hfound, fun hmade => ?_⟩
  by_cases hempty : Path.trimmed directory = []
  · rw [hempty]
    nofun
  · refine follow_of_isDirectory (hthere ?_ hmade)
    rw [ancestors, if_neg (by simpa using hempty)]
    exact List.cons_ne_nil _ _

/-- A directory that is there is left as it is. -/
theorem makeParents_of_follow {disk : Disk α} {directory : Path α} {place : Place α} {name : Text α}
    (hname : Path.IsName name) (h : disk.follow directory = .ok place)
    (hlegal : (Path.join directory name).IsLegal) :
    disk.makeParents (Path.join directory name) = (.ok (), disk) := by
  rw [makeParents_join disk directory hname, makeDirectories, ancestors]
  by_cases hempty : Path.trimmed directory = []
  · rw [hempty]
    rfl
  · have hprefix : Path.trimmed directory <+: Path.join directory name :=
      (Path.trimmed_prefix directory).trans (Path.prefix_join directory hname)
    rw [if_neg (by simpa using hempty)]
    obtain ⟨hthere, hmade⟩ := isDirectory_of_follow (hlegal.of_prefix hprefix hempty)
      ((follow_trimmed disk directory).trans h)
    rw [makeAncestors_of_error hmade nofun, hthere]
    rfl

end Disk

end ScriptDesk
