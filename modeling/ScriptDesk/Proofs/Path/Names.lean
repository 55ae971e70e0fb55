import ScriptDesk.Path
import ScriptDesk.Proofs.Text.Lines

/-!
# Names in directories

A name (`IsName`) is what a file name can be: a single part of a path that counts and does not lead
up. The file name of every path is one (`isName_of_fileName?`). The path of a name seen from a
directory has this name, and its directory is the one from before without parts at the end that
count for nothing (`fileName?_join`, `parent?_join`). What else is joined to a directory is never
the file name of what comes out (`fileName?_withFileName_iff`): it leads up or down, or somewhere
else.
-/

namespace ScriptDesk.Path

open Text PathUnit

variable {α : Type} [DecidableEq α] [PathUnit α]

/-- This is what a file in a directory can be called. -/
structure IsName (name : Text α) : Prop where
  /-- It is a single part. -/
  whole : slash ∉ name
  /-- It is not empty and no single dot. -/
  counts : isIdle name = false
  /-- It does not lead up. -/
  ne_up : name ≠ up

instance (name : Text α) : Decidable (IsName name) :=
  decidable_of_iff (slash ∉ name ∧ isIdle name = false ∧ name ≠ up)
    ⟨fun h => ⟨h.1, h.2.1, h.2.2⟩, fun h => ⟨h.whole, h.counts, h.ne_up⟩⟩

theorem isIdle_iff {part : Text α} : isIdle part = true ↔ part = [] ∨ part = [dot] := by
  simp [isIdle]

@[simp] theorem isIdle_dot : isIdle [(dot : α)] = true := by
  simp [isIdle]

/-- The file name of a path is a name. -/
theorem isName_of_fileName? {path : Path α} {name : Text α} (h : fileName? path = some name) :
    IsName name := by
  unfold fileName? at h
  split at h
  · cases h
  · rename_i part others hparts
    split at h
    · cases h
    · rename_i hup
      cases h
      have hmem : name ∈ partsReversed path := hparts ▸ List.mem_cons_self
      refine ⟨?_, ?_, hup⟩
      · exact not_mem_of_mem_cutAt
          (List.mem_reverse.mp ((List.dropWhile_sublist isIdle).subset hmem))
      · have hhead := List.head?_dropWhile_not isIdle ((front path).2.cutAt slash).reverse
        rw [show List.dropWhile isIdle _ = _ from hparts] at hhead
        simpa using hhead

/-! ### Fronts -/

@[simp] theorem front_nil : front ([] : Path α) = ([], []) := rfl

@[simp] theorem front_slash (rest : Path α) : front (slash :: rest) = ([slash], rest) :=
  if_pos rfl

@[simp] theorem front_dot : front [(dot : α)] = ([dot], []) := by
  simp [front, dot_ne_slash]

@[simp] theorem front_dot_slash (rest : Path α) :
    front (dot :: slash :: rest) = ([dot], slash :: rest) := by
  simp [front, dot_ne_slash]

/-- Without a slash or a lone dot at its beginning, a path has no front. -/
theorem front_of_ne {path : Path α} (hroot : ∀ rest, path ≠ slash :: rest)
    (hdot : path ≠ [dot]) (hhere : ∀ rest, path ≠ dot :: slash :: rest) :
    front path = ([], path) := by
  fun_cases front path with
  | case1 => rfl
  | case2 rest => exact absurd rfl (hroot rest)
  | case3 c rest _ hfront =>
    obtain ⟨rfl, hbehind⟩ := hfront
    cases rest with
    | nil => exact absurd rfl hdot
    | cons c rest =>
      have hc : c = slash := by simpa using hbehind
      exact absurd (hc ▸ rfl) (hhere rest)
  | case4 => rfl

/-- These are the paths that have a front, and those that have none. -/
theorem front_cases (path : Path α) :
    (∃ rest, path = slash :: rest) ∨ path = [dot] ∨ (∃ rest, path = dot :: slash :: rest) ∨
      (∀ rest, path ≠ slash :: rest) ∧ path ≠ [dot] ∧ ∀ rest, path ≠ dot :: slash :: rest := by
  by_cases hroot : ∃ rest, path = slash :: rest
  · exact .inl hroot
  by_cases hdot : path = [dot]
  · exact .inr (.inl hdot)
  by_cases hhere : ∃ rest, path = dot :: slash :: rest
  · exact .inr (.inr (.inl hhere))
  · exact .inr (.inr (.inr ⟨not_exists.mp hroot, hdot, not_exists.mp hhere⟩))

/-- What follows a slash does not belong to the front. -/
theorem front_append {path : Path α} (hne : path ≠ []) (rest : Text α) :
    front (path ++ slash :: rest) = ((front path).1, (front path).2 ++ slash :: rest) := by
  rcases front_cases path with ⟨later, rfl⟩ | rfl | ⟨later, rfl⟩ | ⟨hroot, hdot, hhere⟩
  · simp
  · simp
  · simp
  · obtain ⟨c, path, rfl⟩ := List.exists_cons_of_ne_nil hne
    rw [front_of_ne hroot hdot hhere]
    refine front_of_ne ?_ ?_ ?_
    · rintro _ heq
      cases heq
      exact hroot _ rfl
    · intro heq
      cases path <;> cases heq
    · rintro _ heq
      cases path with
      | nil =>
        cases heq
        exact hdot rfl
      | cons d path =>
        cases heq
        exact hhere _ rfl

/-- The path of a few parts at the beginning has the same front if the last of them counts. -/
theorem front_shortened {path : Path α} {parts : List (Text α)}
    (h : parts <+: (front path).2.cutAt slash)
    (hlast : ∀ part ∈ parts.getLast?, isIdle part = false) :
    front ((front path).1 ++ Text.join [slash] parts) =
      ((front path).1, Text.join [slash] parts) := by
  have hjoined : Text.join [slash] parts <+: (front path).2 := by
    have hwhole := join_cutAt slash (front path).2
    exact hwhole ▸ join_prefix_join h
  have hdot : Text.join [slash] parts ≠ [dot] := by
    intro hjoin
    have hne : parts ≠ [] := by
      rintro rfl
      cases hjoin
    have hcut := cutAt_join hne fun part hpart => not_mem_of_mem_cutAt (h.subset hpart)
    rw [hjoin, cutAt_of_not_mem (by simpa using dot_ne_slash.symm)] at hcut
    have hidle := hlast [dot] (by rw [← hcut]; rfl)
    simp [isIdle] at hidle
  generalize Text.join [slash] parts = text at hjoined hdot ⊢
  rcases front_cases path with ⟨rest, rfl⟩ | rfl | ⟨rest, rfl⟩ | ⟨hroot, hsingle, hhere⟩
  · simp
  · rw [front_dot] at hjoined ⊢
    rw [List.prefix_nil.mp hjoined]
    exact front_dot
  · rw [front_dot_slash] at hjoined ⊢
    rcases List.prefix_cons_iff.mp hjoined with rfl | ⟨text, rfl, -⟩
    · exact front_dot
    · exact front_dot_slash text
  · rw [front_of_ne hroot hsingle hhere] at hjoined ⊢
    obtain ⟨later, rfl⟩ := hjoined
    refine front_of_ne ?_ hdot ?_
    · rintro rest rfl
      exact hroot _ rfl
    · rintro rest rfl
      exact hhere _ rfl

/-- So its parts are just these. -/
theorem partsReversed_shortened {path : Path α} {parts : List (Text α)}
    (h : parts <+: (front path).2.cutAt slash)
    (hlast : ∀ part ∈ parts.getLast?, isIdle part = false) :
    partsReversed ((front path).1 ++ Text.join [slash] parts) = parts.reverse := by
  unfold partsReversed
  rw [front_shortened h hlast]
  by_cases hne : parts = []
  · subst hne
    rfl
  · rw [cutAt_join hne fun part hpart => not_mem_of_mem_cutAt (h.subset hpart)]
    cases hparts : parts.reverse with
    | nil => rfl
    | cons last others =>
      have hcounts := hlast last (by rw [← List.head?_reverse, hparts]; rfl)
      rw [List.dropWhile_cons_of_neg (by simp [hcounts])]

/-! ### Paths without parts at the end that count for nothing -/

/-- The path up to its last part that counts. -/
def trimmed (path : Path α) : Path α :=
  (front path).1 ++ Text.join [slash] (partsReversed path).reverse

/-- The parts without those at the end that count for nothing are the first ones. -/
theorem reverse_dropWhile_isBeginning (parts : List (Text α)) :
    (parts.reverse.dropWhile isIdle).reverse <+: parts := by
  have hsuffix := List.dropWhile_suffix isIdle (l := parts.reverse)
  rwa [← List.reverse_prefix, List.reverse_reverse] at hsuffix

theorem isIdle_of_mem_getLast? {parts : List (Text α)} :
    ∀ part ∈ (parts.dropWhile isIdle).reverse.getLast?, isIdle part = false := by
  intro part hpart
  have hhead := List.head?_dropWhile_not isIdle parts
  rw [List.getLast?_reverse] at hpart
  rw [Option.mem_def.mp hpart] at hhead
  exact hhead

theorem front_trimmed (path : Path α) :
    front (trimmed path) = ((front path).1, Text.join [slash] (partsReversed path).reverse) :=
  front_shortened (reverse_dropWhile_isBeginning _) isIdle_of_mem_getLast?

/-- The directory of a path has no parts at its end that count for nothing. -/
theorem trimmed_of_parent? {path directory : Path α} (h : parent? path = some directory) :
    trimmed directory = directory := by
  unfold parent? at h
  split at h
  · rename_i last others hparts
    cases h
    have hprefix : (others.dropWhile isIdle).reverse <+: (front path).2.cutAt slash := by
      rw [← List.reverse_suffix, List.reverse_reverse]
      have hothers : others <:+ partsReversed path := hparts ▸ List.suffix_cons last others
      exact (List.dropWhile_suffix isIdle).trans (hothers.trans (List.dropWhile_suffix isIdle))
    unfold trimmed
    rw [front_shortened hprefix isIdle_of_mem_getLast?,
      partsReversed_shortened hprefix isIdle_of_mem_getLast?, List.reverse_reverse]
  · split at h
    · cases h
      rfl
    · cases h

theorem filter_dropWhile_isIdle (parts : List (Text α)) :
    (parts.dropWhile isIdle).filter (!isIdle ·) = parts.filter (!isIdle ·) := by
  induction parts with
  | nil => rfl
  | cons part parts ih =>
    cases hpart : isIdle part with
    | true =>
      rw [List.dropWhile_cons_of_pos hpart, List.filter_cons_of_neg (by simp [hpart]), ih]
    | false => rw [List.dropWhile_cons_of_neg (by simp [hpart])]

/-- What is left out counts for nothing. -/
theorem sameParts_trimmed (path : Path α) : sameParts (trimmed path) path = true := by
  have hcut : (cutAt slash (Text.join [slash] (partsReversed path).reverse)).filter (!isIdle ·) =
      (partsReversed path).reverse.filter (!isIdle ·) := by
    by_cases hne : (partsReversed path).reverse = []
    · rw [hne]
      rfl
    · rw [cutAt_join hne fun part hpart =>
        not_mem_of_mem_cutAt ((reverse_dropWhile_isBeginning _).subset hpart)]
  unfold sameParts
  rw [front_trimmed, hcut, List.filter_reverse, partsReversed, filter_dropWhile_isIdle,
    List.filter_reverse, List.reverse_reverse]
  simp

/-! ### A name in a directory -/

theorem IsName.isAbsolute {name : Text α} (h : IsName name) : isAbsolute name = false := by
  cases name with
  | nil => rfl
  | cons c name =>
    have hc : c ≠ slash := fun hc => h.whole (hc ▸ List.mem_cons_self)
    simp [Path.isAbsolute, hc]

/-- A name is a path of its own, without a front. -/
theorem IsName.front_eq {name : Text α} (h : IsName name) : front name = ([], name) := by
  refine front_of_ne ?_ ?_ ?_
  · rintro rest rfl
    exact h.whole List.mem_cons_self
  · rintro rfl
    exact absurd h.counts (by simp [isIdle])
  · rintro rest rfl
    exact h.whole (List.mem_cons_of_mem _ List.mem_cons_self)

theorem partsReversed_append {path : Path α} (hne : path ≠ []) {rest : Text α}
    (hrest : slash ∉ rest) :
    partsReversed (path ++ slash :: rest) =
      (rest :: ((front path).2.cutAt slash).reverse).dropWhile isIdle := by
  unfold partsReversed
  rw [front_append hne, cutAt_append_cons, cutAt_of_not_mem hrest, List.reverse_append,
    List.reverse_singleton, List.singleton_append]

/-- A name joined to a directory becomes the last part. -/
theorem parts_join (directory : Path α) {name : Text α} (h : IsName name) :
    (front (join directory name)).1 = (front directory).1 ∧
      ∃ others, partsReversed (join directory name) = name :: others ∧
        others.dropWhile isIdle = partsReversed directory := by
  have hcounts : ¬isIdle name = true := by simp [h.counts]
  have hbehind : ∀ path : Path α, path ≠ [] →
      (front (path ++ slash :: name)).1 = (front path).1 ∧
        ∃ others, partsReversed (path ++ slash :: name) = name :: others ∧
          others.dropWhile isIdle = partsReversed path := by
    intro path hne
    refine ⟨by rw [front_append hne], _, ?_, rfl⟩
    rw [partsReversed_append hne h.whole, List.dropWhile_cons_of_neg hcounts]
  have halone : partsReversed name = [name] := by
    rw [partsReversed, h.front_eq, cutAt_of_not_mem h.whole, List.reverse_singleton,
      List.dropWhile_cons_of_neg hcounts]
  unfold join
  rw [h.isAbsolute, if_neg Bool.false_ne_true]
  rcases List.eq_nil_or_concat directory with rfl | ⟨path, last, rfl⟩
  · have hfront : (front name).1 = [] := congrArg Prod.fst h.front_eq
    exact ⟨hfront, [], halone, rfl⟩
  · rw [List.concat_eq_append]
    by_cases hlast : last = slash
    · subst hlast
      rw [if_pos (by simp), List.append_assoc, List.singleton_append]
      by_cases hne : path = []
      · subst hne
        refine ⟨by simp, [], ?_, by simp [partsReversed, cutAt, isIdle]⟩
        rw [List.nil_append, partsReversed, front_slash, cutAt_of_not_mem h.whole,
          List.reverse_singleton, List.dropWhile_cons_of_neg hcounts]
      · have hslash : partsReversed (path ++ [slash]) = partsReversed path :=
          partsReversed_append hne List.not_mem_nil
        rw [hslash, show (front (path ++ [slash])).1 = (front path).1 by rw [front_append hne]]
        exact hbehind path hne
    · rw [if_neg (by simp [hlast])]
      exact hbehind _ (by simp)

/-- **The name joined to a directory is the file name.** -/
theorem fileName?_join (directory : Path α) {name : Text α} (h : IsName name) :
    fileName? (join directory name) = some name := by
  obtain ⟨-, others, hparts, -⟩ := parts_join directory h
  unfold fileName?
  rw [hparts]
  exact if_neg h.ne_up

/-- And the directory is the directory. -/
theorem parent?_join (directory : Path α) {name : Text α} (h : IsName name) :
    parent? (join directory name) = some (trimmed directory) := by
  obtain ⟨hfront, others, hparts, hothers⟩ := parts_join directory h
  unfold parent?
  rw [hparts]
  simp only [hfront, hothers]
  rfl

/-- Where there is a file name there is a directory. -/
theorem exists_parent?_of_fileName? {path : Path α} {name : Text α}
    (h : fileName? path = some name) : ∃ directory, parent? path = some directory := by
  unfold fileName? at h
  unfold parent?
  split at h
  · cases h
  · rename_i part others hparts
    rw [hparts]
    exact ⟨_, rfl⟩

/-- A new name that is one becomes the file name, and the directory stays. -/
theorem withFileName_of_isName {path : Path α} {old name : Text α} (h : fileName? path = some old)
    (hname : IsName name) :
    fileName? (withFileName path name) = some name ∧
      parent? (withFileName path name) = parent? path := by
  obtain ⟨directory, hdirectory⟩ := exists_parent?_of_fileName? h
  unfold withFileName
  rw [h, hdirectory]
  refine ⟨fileName?_join directory hname, (parent?_join directory hname).trans ?_⟩
  rw [trimmed_of_parent? hdirectory]

/-- So a new name becomes the file name if and only if it is a name. -/
theorem fileName?_withFileName_iff {path : Path α} {old name : Text α}
    (h : fileName? path = some old) :
    fileName? (withFileName path name) = some name ↔ IsName name :=
  ⟨isName_of_fileName?, fun hname => (withFileName_of_isName h hname).1⟩

/-! ### Stems -/

/-- The stem ends at the last dot, unless there is nothing in front of it. -/
theorem stemOf_append (base : Text α) {ending : Text α} (h : dot ∉ ending) :
    stemOf (base ++ dot :: ending) = if base = [] then dot :: ending else base := by
  have hbehind : (base ++ dot :: ending).reverse.takeWhile (· ≠ dot) = ending.reverse := by
    have hending : ∀ c ∈ ending.reverse, decide (c ≠ dot) = true := by
      intro c hc
      exact decide_eq_true fun hdot => h (hdot ▸ List.mem_reverse.mp hc)
    rw [List.reverse_append, List.reverse_cons, List.append_assoc,
      List.takeWhile_append_of_pos hending]
    simp
  have hlength : (base ++ dot :: ending).length - ending.reverse.length - 1 = base.length := by
    simp only [List.length_append, List.length_cons, List.length_reverse]
    omega
  have hshort : ending.reverse.length ≠ (base ++ dot :: ending).length := by
    simp only [List.length_append, List.length_cons, List.length_reverse]
    omega
  unfold stemOf
  rw [hbehind]
  simp only [hlength, hshort, false_or, List.take_left, List.isEmpty_iff]
  split
  · rename_i hbase
    rw [hbase, List.nil_append]
  · rfl

theorem stem_of_fileName? {path : Path α} {name : Text α} (h : fileName? path = some name) :
    stem path = shown (stemOf name) := by
  unfold stem
  rw [h]
  rfl

/-! ### Names of script files -/

omit [DecidableEq α] in
/-- The name of a script file as it is spelled. -/
theorem spell_append_scriptEnding (name : Text) :
    (spell (name ++ scriptEnding) : Text α) = spell name ++ dot :: spell "spad".toList :=
  spell_append_cons (by decide) name _

/-- With the ending of script files, a text is a name if it leads nowhere. -/
theorem isName_append_scriptEnding_iff {name : Text} :
    IsName (spell (name ++ scriptEnding) : Text α) ↔ '/' ∉ name := by
  have hslash : (slash : α) ∈ spell (name ++ scriptEnding) ↔ '/' ∈ name := by
    rw [ascii_mem_spell_iff (by decide), List.mem_append]
    exact or_iff_left (by decide)
  have hending : (spell "spad".toList : Text α).length = 4 := by
    rw [spell_of_forall_ascii (by simp), List.length_map]
    rfl
  have hlong : ∀ {part : Text α}, part.length < 5 → spell (name ++ scriptEnding) ≠ part := by
    rintro part hpart rfl
    rw [spell_append_scriptEnding, List.length_append, List.length_cons, hending] at hpart
    omega
  constructor
  · exact fun h hmem => h.whole (hslash.mpr hmem)
  · intro h
    refine ⟨fun hmem => h (hslash.mp hmem), ?_, hlong (by simp [up])⟩
    rw [← Bool.not_eq_true, isIdle_iff, not_or]
    exact ⟨hlong (by simp), hlong (by simp)⟩

/-- The stem of the name of a script file is what stands in front of the ending. -/
theorem stemOf_append_scriptEnding {name : Text} (h : name ≠ []) :
    stemOf (spell (name ++ scriptEnding) : Text α) = spell name := by
  have hending : (dot : α) ∉ spell "spad".toList := by
    rw [ascii_mem_spell_iff (by decide)]
    decide
  have hne : (spell name : Text α) ≠ [] := fun hempty =>
    h (spell_injective (hempty.trans spell_nil.symm))
  rw [spell_append_scriptEnding, stemOf_append _ hending, if_neg hne]

/-- The file for a script has its name, with the ending of script files, if that leads nowhere. -/
theorem fileName?_forScript_iff (directory : Path α) {name : Text} :
    fileName? (forScript directory name) = some (spell (name ++ scriptEnding)) ↔ '/' ∉ name := by
  constructor
  · exact fun h => isName_append_scriptEnding_iff.mp (isName_of_fileName? h)
  · exact fun h => fileName?_join directory (isName_append_scriptEnding_iff.mpr h)

/-- Then it is in the directory. -/
theorem exists_parent?_forScript (directory : Path α) {name : Text} (h : '/' ∉ name) :
    ∃ parent, parent? (forScript directory name) = some parent ∧
      sameParts parent directory = true :=
  ⟨trimmed directory, parent?_join directory (isName_append_scriptEnding_iff.mpr h),
    sameParts_trimmed directory⟩

/-- And its stem is the name of the script. -/
theorem stem_forScript (directory : Path α) {name : Text} (hne : name ≠ []) (h : '/' ∉ name) :
    stem (forScript directory name) = name := by
  rw [stem_of_fileName? ((fileName?_forScript_iff directory).mpr h),
    stemOf_append_scriptEnding hne, shown_spell]

/-! A path that is text has a stem that is one of its parts. -/

/-- The stem of a path leads nowhere. -/
theorem not_mem_stem (path : Path) : '/' ∉ stem path := by
  have hsubset : ∀ name : Text, stemOf name ⊆ name := by
    intro name
    unfold stemOf
    simp only
    split
    · exact List.Subset.refl name
    · exact List.take_subset _ _
  unfold stem
  cases hname : fileName? path with
  | none => exact List.not_mem_nil
  | some name => exact fun hmem => (isName_of_fileName? hname).whole (hsubset name hmem)

/-- The stem is the name of the script, unless that is empty or leads somewhere. -/
theorem stem_forScript_iff (directory : Path) {name : Text} :
    stem (forScript directory name) = name ↔ name ≠ [] ∧ '/' ∉ name := by
  by_cases hwhole : '/' ∈ name
  · refine ⟨fun h => ?_, fun h => absurd hwhole h.2⟩
    rw [← h] at hwhole
    exact absurd hwhole (not_mem_stem _)
  · refine ⟨fun h => ⟨?_, hwhole⟩, fun h => stem_forScript directory h.1 h.2⟩
    rintro rfl
    rw [stem_of_fileName? ((fileName?_forScript_iff directory).mpr hwhole)] at h
    exact absurd h (by decide)

end ScriptDesk.Path
