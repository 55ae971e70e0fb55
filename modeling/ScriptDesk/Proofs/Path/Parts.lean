import ScriptDesk.Proofs.Path.Names

/-!
# The parts of a path that count

A path says which names to follow and from where: its names are the parts that count, in order
(`Path.names`), and it starts at the root or not. Parts at its end that count for nothing change
neither (`names_trimmed`). A path with names is that of its directory with one more name behind
(`names_cases`), and a name joined to a directory is this name behind the names of the directory
(`names_join`).
-/

namespace ScriptDesk

open Text PathUnit

namespace Path

variable {α : Type} [DecidableEq α] [PathUnit α]

/-- The parts of a path that count, in order. -/
def names (path : Path α) : List (Text α) :=
  (path.cutAt slash).filter (!isIdle ·)

theorem names_append (path rest : Text α) :
    names (path ++ slash :: rest) = names path ++ names rest := by
  rw [names, cutAt_append_cons, List.filter_append]
  rfl

/-- The front of a path has no part that counts. -/
theorem names_eq_of_front (path : Path α) :
    names path = ((front path).2.cutAt slash).filter (!isIdle ·) := by
  have hdot : names [(dot : α)] = [] := by
    simp [names, cutAt, dot_ne_slash, isIdle]
  rcases front_cases path with ⟨rest, rfl⟩ | rfl | ⟨rest, rfl⟩ | ⟨hroot, hsingle, hhere⟩
  · rw [front_slash]
    exact names_append [] rest
  · rw [front_dot]
    exact hdot
  · rw [front_dot_slash]
    have hrest := names_append [dot] rest
    rw [hdot] at hrest
    exact hrest.trans (names_append [] rest).symm
  · rw [front_of_ne hroot hsingle hhere]
    rfl

theorem isAbsolute_eq (path : Path α) : isAbsolute path = ((front path).1 == [slash]) := by
  rcases front_cases path with ⟨rest, rfl⟩ | rfl | ⟨rest, rfl⟩ | ⟨hroot, hsingle, hhere⟩
  · simp [isAbsolute]
  · simp [isAbsolute]
  · simp [isAbsolute]
  · rw [front_of_ne hroot hsingle hhere]
    cases path with
    | nil => rfl
    | cons c rest =>
      have hc : c ≠ slash := fun hc => hroot rest (hc ▸ rfl)
      simp [isAbsolute, hc]

theorem names_of_sameParts {a b : Path α} (h : sameParts a b = true) :
    names a = names b ∧ isAbsolute a = isAbsolute b := by
  unfold sameParts at h
  rw [Bool.and_eq_true, beq_iff_eq, beq_iff_eq] at h
  rw [names_eq_of_front, names_eq_of_front b, h.2, isAbsolute_eq, isAbsolute_eq b, h.1]
  exact ⟨rfl, rfl⟩

theorem names_trimmed (path : Path α) :
    names (trimmed path) = names path ∧ isAbsolute (trimmed path) = isAbsolute path :=
  names_of_sameParts (sameParts_trimmed path)

/-- What is left out stands at the end. -/
theorem trimmed_prefix (path : Path α) : trimmed path <+: path := by
  have hwhole : (front path).1 ++ (front path).2 = path := by
    rcases front_cases path with ⟨rest, rfl⟩ | rfl | ⟨rest, rfl⟩ | ⟨hroot, hsingle, hhere⟩
    · simp
    · simp
    · simp
    · simp [front_of_ne hroot hsingle hhere]
  have hparts : Text.join [slash] (partsReversed path).reverse <+: (front path).2 := by
    have hcut := join_cutAt slash (front path).2
    exact hcut ▸ join_prefix_join (reverse_dropWhile_isBeginning _)
  obtain ⟨rest, hrest⟩ := hparts
  exact ⟨rest, by rw [trimmed, List.append_assoc, hrest, hwhole]⟩

/-! ### A name in a directory -/

theorem prefix_join (directory : Path α) {name : Text α} (h : IsName name) :
    directory <+: join directory name := by
  rw [join, h.isAbsolute, if_neg Bool.false_ne_true]
  split
  · exact List.prefix_append _ _
  · exact List.prefix_append _ _

theorem join_ne_nil (directory : Path α) {name : Text α} (h : IsName name) :
    join directory name ≠ [] := by
  intro hempty
  have hlast := fileName?_join directory h
  rw [hempty] at hlast
  cases hlast

theorem isAbsolute_join (directory : Path α) {name : Text α} (h : IsName name) :
    isAbsolute (join directory name) = isAbsolute directory := by
  rw [isAbsolute_eq, (parts_join directory h).1, ← isAbsolute_eq]

/-- Cut into parts, a name joined to a directory comes last. -/
theorem exists_cutAt_join (directory : Path α) {name : Text α} (h : IsName name) :
    ∃ parts, (join directory name).cutAt slash = parts ++ [name] ∧
      parts.filter (!isIdle ·) = names directory := by
  have hbehind : ∀ path : Text α,
      (path ++ slash :: name).cutAt slash = path.cutAt slash ++ [name] := by
    intro path
    rw [cutAt_append_cons, cutAt_of_not_mem h.whole]
  rw [join, h.isAbsolute, if_neg Bool.false_ne_true]
  rcases List.eq_nil_or_concat directory with rfl | ⟨path, last, rfl⟩
  · exact ⟨[], cutAt_of_not_mem h.whole, rfl⟩
  · rw [List.concat_eq_append]
    by_cases hlast : last = slash
    · subst hlast
      rw [if_pos (by simp), List.append_assoc, List.singleton_append]
      refine ⟨_, hbehind path, ?_⟩
      exact (List.append_nil _).symm.trans (names_append path []).symm
    · rw [if_neg (by simp [hlast])]
      exact ⟨_, hbehind _, rfl⟩

theorem names_join (directory : Path α) {name : Text α} (h : IsName name) :
    names (join directory name) = names directory ++ [name] := by
  obtain ⟨parts, hcut, hparts⟩ := exists_cutAt_join directory h
  rw [names, hcut, List.filter_append, hparts, List.filter_cons_of_pos (by simp [h.counts]),
    List.filter_nil]

/-! ### Directories above a path -/

/-- The last part is one that counts. -/
theorem isIdle_of_partsReversed {path : Path α} {last : Text α} {others : List (Text α)}
    (h : partsReversed path = last :: others) : isIdle last = false := by
  have hhead := List.head?_dropWhile_not isIdle ((front path).2.cutAt slash).reverse
  rwa [show List.dropWhile isIdle _ = _ from h] at hhead

theorem names_eq_of_partsReversed (path : Path α) :
    names path = (partsReversed path).reverse.filter (!isIdle ·) := by
  rw [names_eq_of_front, List.filter_reverse, partsReversed, filter_dropWhile_isIdle,
    List.filter_reverse, List.reverse_reverse]

/-- A path in which a part counts is that of its directory with the last of these parts behind. -/
theorem names_cases (path : Path α) :
    names path = [] ∨ ∃ directory last, parent? path = some directory ∧
      names path = names directory ++ [last] ∧ isAbsolute path = isAbsolute directory := by
  cases hparts : partsReversed path with
  | nil =>
    refine .inl ?_
    rw [names_eq_of_partsReversed, hparts]
    rfl
  | cons last others =>
    have hlast : isIdle last = false := isIdle_of_partsReversed hparts
    have hprefix : (others.dropWhile isIdle).reverse <+: (front path).2.cutAt slash := by
      rw [← List.reverse_suffix, List.reverse_reverse]
      have hothers : others <:+ partsReversed path := hparts ▸ List.suffix_cons last others
      exact (List.dropWhile_suffix isIdle).trans (hothers.trans (List.dropWhile_suffix isIdle))
    have hfront := front_shortened hprefix isIdle_of_mem_getLast?
    have hreversed := partsReversed_shortened hprefix isIdle_of_mem_getLast?
    refine .inr
      ⟨(front path).1 ++ Text.join [slash] (others.dropWhile isIdle).reverse, last, ?_, ?_, ?_⟩
    · rw [parent?, hparts]
    · rw [names_eq_of_partsReversed, hparts, names_eq_of_partsReversed (_ ++ _), hreversed,
        List.reverse_reverse, List.filter_reverse (l := others.dropWhile isIdle),
        filter_dropWhile_isIdle, ← List.filter_reverse, List.reverse_cons, List.filter_append,
        List.filter_cons_of_pos (by simp [hlast]), List.filter_nil]
    · rw [isAbsolute_eq, isAbsolute_eq (_ ++ _), hfront]

/-- If nothing at the end of a path counts for nothing, it ends with the last part that counts. -/
theorem getLast?_cutAt_of_trimmed {path : Path α} (h : trimmed path = path) {last : Text α}
    (hlast : (names path).getLast? = some last) : (path.cutAt slash).getLast? = some last := by
  have hrest : (front path).2 = Text.join [slash] (partsReversed path).reverse := by
    have hfront := front_trimmed path
    rw [h] at hfront
    exact congrArg Prod.snd hfront
  obtain ⟨part, others, hparts⟩ : ∃ part others, partsReversed path = part :: others := by
    cases hparts : partsReversed path with
    | nil =>
      rw [names_eq_of_partsReversed, hparts] at hlast
      cases hlast
    | cons part others => exact ⟨part, others, rfl⟩
  have hcut : (front path).2.cutAt slash = others.reverse ++ [part] := by
    rw [hrest, hparts, List.reverse_cons]
    refine cutAt_join (by simp) fun other hother => ?_
    rw [← List.reverse_cons, ← hparts] at hother
    exact not_mem_of_mem_cutAt ((reverse_dropWhile_isBeginning _).subset hother)
  have hpart : part = last := by
    have hcounts := isIdle_of_partsReversed hparts
    rw [names_eq_of_front, hcut, List.filter_append, List.filter_cons_of_pos (by simp [hcounts]),
      List.filter_nil, List.getLast?_concat] at hlast
    exact Option.some.inj hlast
  subst hpart
  have hbehind : ∀ before rest : Text α,
      ((before ++ slash :: rest).cutAt slash).getLast? = (rest.cutAt slash).getLast? := by
    intro before rest
    obtain ⟨parts, last, hparts⟩ := (List.eq_nil_or_concat (rest.cutAt slash)).resolve_left
      (cutAt_ne_nil _ _)
    rw [cutAt_append_cons, hparts, List.concat_eq_append, ← List.append_assoc,
      List.getLast?_concat, List.getLast?_concat]
  have hfront : ((front path).2.cutAt slash).getLast? = some part := by
    rw [hcut, List.getLast?_concat]
  rcases front_cases path with ⟨rest, rfl⟩ | rfl | ⟨rest, rfl⟩ | ⟨hroot, hdot, hhere⟩
  · rw [front_slash] at hfront
    exact (hbehind [] rest).trans hfront
  · simp [partsReversed, cutAt, isIdle] at hparts
  · rw [front_dot_slash] at hfront
    exact ((hbehind [dot] rest).trans (hbehind [] rest).symm).trans hfront
  · rw [front_of_ne hroot hdot hhere] at hfront
    exact hfront

end Path

end ScriptDesk
