import ScriptDesk.Disk

/-!
# Writing a file and reading it

A path by which a file can be written leads to a name in a directory where no directory is
(`Disk.LeadsTo`). Writing changes only what is at that place. Directories stay where they are, so
the path leads to the same place afterwards, and what is read there is what was written
(`readText_write`). Creating a file is writing it where it may be created (`write_of_create`).
-/

namespace ScriptDesk.Disk

open PathUnit

variable {α : Type} [DecidableEq α]

theorem node?_put (disk : Disk α) {place : Place α} (hplace : place ≠ []) (node : Node)
    (other : Place α) :
    (disk.put place node).node? other = if other = place then some node else disk.node? other := by
  cases other with
  | nil => rw [if_neg (Ne.symm hplace)]; rfl
  | cons name names => exact disk.nodes.get?_set place (name :: names) node

variable [PathUnit α]

/-- The path leads to a name in a directory, and a file may be written there. -/
structure LeadsTo (disk : Disk α) (path : Path α) (directory : Place α) (name : Text α) : Prop where
  /-- The path is looked up. -/
  located : disk.locate path = .ok (.entry directory name false)
  /-- The name is short enough. -/
  short : isTooLong name = false
  /-- There is no directory of that name. -/
  free : disk.node? (directory ++ [name]) ≠ some .directory

theorem leadsTo_of_placeToWrite {disk : Disk α} {path : Path α} {place : Place α}
    (h : disk.placeToWrite path = .ok place) :
    ∃ directory name, disk.LeadsTo path directory name ∧ place = directory ++ [name] := by
  unfold placeToWrite at h
  cases hloc : disk.locate path with
  | error e => rw [hloc] at h; cases h
  | ok target =>
    rw [hloc] at h
    cases target with
    | directory place => cases h
    | entry directory name closed =>
      cases closed with
      | true => cases h
      | false =>
        cases hlong : isTooLong name with
        | true => simp [hlong, bind, Except.bind, throw, throwThe, MonadExceptOf.throw] at h
        | false =>
          simp only [hlong, bind, Except.bind, Bool.false_eq_true, if_false] at h
          split at h
          · cases h
          · rename_i hfree
            cases h
            exact ⟨directory, name, ⟨hloc, hlong, hfree⟩, rfl⟩

/-- Where a file can be created it can be written. -/
theorem placeToWrite_of_placeToCreate {disk : Disk α} {path : Path α} {place : Place α}
    (h : disk.placeToCreate path = .ok place) : disk.placeToWrite path = .ok place := by
  unfold placeToCreate at h
  unfold placeToWrite
  cases hloc : disk.locate path with
  | error e => rw [hloc] at h; cases h
  | ok target =>
    rw [hloc] at h
    cases target with
    | directory place => cases h
    | entry directory name closed =>
      simp only [bind, Except.bind] at h ⊢
      split at h
      · cases h
      · rename_i hopen
        rw [if_neg hopen]
        split at h
        · cases h
        · rename_i hshort
          rw [if_neg hshort]
          cases hnode : disk.node? (directory ++ [name]) with
          | some node => rw [hnode] at h; cases h
          | none => rw [hnode] at h; exact h

theorem write_of_create {disk disk' : Disk α} {path : Path α} {content : Bytes}
    (h : disk.create path content = .ok disk') : disk.write path content = .ok disk' := by
  unfold create at h
  unfold write
  cases hplace : disk.placeToCreate path with
  | error e => rw [hplace] at h; cases h
  | ok place =>
    rw [hplace] at h
    rw [placeToWrite_of_placeToCreate hplace]
    exact h

/-! ### What writing leaves as it was -/

/-- A way through directories stays one when something is put where no directory is. -/
theorem walk_put {disk : Disk α} {place : Place α} (hplace : place ≠ [])
    (hfree : disk.node? place ≠ some .directory) (node : Node) (names : List (Text α)) :
    ∀ directory target, disk.walk directory names = .ok target →
      (disk.put place node).walk directory names = .ok target := by
  induction names with
  | nil => intro directory target h; exact h
  | cons name names ih =>
    intro directory target h
    rw [walk] at h ⊢
    split at h
    · rename_i hup
      rw [if_pos hup]
      exact ih _ _ h
    · rename_i hup
      rw [if_neg hup]
      split at h
      · cases h
      · rename_i hlong
        rw [if_neg hlong]
        cases hnode : disk.node? (directory ++ [name]) with
        | none => rw [hnode] at h; cases h
        | some found =>
          rw [hnode] at h
          cases found with
          | file content => cases h
          | directory =>
            have hother : directory ++ [name] ≠ place := by
              rintro rfl
              exact hfree hnode
            rw [node?_put disk hplace, if_neg hother, hnode]
            exact ih _ _ h

theorem locate_put {disk : Disk α} {place : Place α} (hplace : place ≠ [])
    (hfree : disk.node? place ≠ some .directory) (node : Node) {path : Path α} {target : Target α}
    (h : disk.locate path = .ok target) : (disk.put place node).locate path = .ok target := by
  have hwalk := walk_put hplace hfree node
  have hbind : ∀ (directory : Place α) (names : List (Text α)) (wrap : Place α → Target α),
      (do return wrap (← disk.walk directory names)) = .ok target →
        (do return wrap (← (disk.put place node).walk directory names)) = .ok target := by
    intro directory names wrap h
    cases hw : disk.walk directory names with
    | error e => rw [hw] at h; cases h
    | ok found => rw [hw] at h; rw [hwalk names _ _ hw]; exact h
  unfold locate at h ⊢
  simp only [bind, Except.bind] at h ⊢
  split at h
  · cases h
  · rename_i hnul
    rw [if_neg hnul]
    split at h
    · cases h
    · rename_i hempty
      rw [if_neg hempty]
      split at h
      · cases h
      · rename_i hlong
        rw [if_neg hlong]
        cases hlast : (List.filter (fun part => !Path.isIdle part) (path.cutAt slash)).getLast? with
        | none => rw [hlast] at h; exact h
        | some last =>
          simp only [hlast] at h ⊢
          split at h
          · rename_i hup
            rw [if_pos hup]
            exact hbind _ _ _ h
          · rename_i hup
            rw [if_neg hup]
            exact hbind _ _ _ h

/-- What was put where the path leads is read there. -/
theorem readBytes_put {disk : Disk α} {path : Path α} {directory : Place α} {name : Text α}
    (h : disk.LeadsTo path directory name) (content : Bytes) :
    (disk.put (directory ++ [name]) (.file content)).readBytes path = .ok content := by
  have hplace : directory ++ [name] ≠ [] := by simp
  have hloc := locate_put hplace h.free (.file content) h.located
  have hnode := node?_put disk hplace (.file content) (directory ++ [name])
  rw [if_pos rfl] at hnode
  unfold readBytes
  simp only [hloc, h.short, hnode, bind, Except.bind]
  rfl

theorem readText_put {disk : Disk α} {path : Path α} {directory : Place α} {name : Text α}
    (h : disk.LeadsTo path directory name) (text : Text) :
    (disk.put (directory ++ [name]) (.file text.toBytes)).readText path = .ok text := by
  unfold readText
  simp only [readBytes_put h, bind, Except.bind, Text.ofBytes?_toBytes]
  rfl

/-- **What was written is read.** -/
theorem readText_write {disk disk' : Disk α} {path : Path α} {text : Text}
    (h : disk.write path text.toBytes = .ok disk') : disk'.readText path = .ok text := by
  unfold write at h
  cases hplace : disk.placeToWrite path with
  | error e => rw [hplace] at h; cases h
  | ok place =>
    rw [hplace] at h
    cases h
    obtain ⟨directory, name, hleads, rfl⟩ := leadsTo_of_placeToWrite hplace
    exact readText_put hleads text

end ScriptDesk.Disk
