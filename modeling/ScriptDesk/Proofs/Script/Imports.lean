import Mathlib.Data.List.Sort
import ScriptDesk.Proofs.Script.Tidying
import ScriptDesk.Script.Program

/-!
# Which namespaces a program imports

The names that are `fresh` are those that were not seen before, each once, in the order in which
they first occur. The names that were seen matter only as a set (`fresh_congr`), so what comes later
adds what is new in it (`fresh_append`), and to look for fresh names twice is to do it once
(`fresh_fresh`).

An import list has the standard namespaces first and then those of the settings, trimmed
(`IsImportList`). There is one such list for all settings, and this is what a program imports. It
stays the same when the settings are tidied up (`imports_ordered_union`).
-/

namespace ScriptDesk.ScriptConfig

open Text

/-! ### Fresh names -/

section Fresh

variable {seen names : List Text} {name : Text}

theorem fresh_cons_of_old (h : name = [] ∨ name ∈ seen) :
    fresh seen (name :: names) = fresh seen names := by
  rw [fresh, if_pos]
  simpa using h

theorem fresh_cons_of_new (hne : name ≠ []) (hnew : name ∉ seen) :
    fresh seen (name :: names) = name :: fresh (name :: seen) names := by
  rw [fresh, if_neg]
  simp [hne, hnew]

/-- A name is old, being blank or seen before, or it is new. -/
theorem old_or_new (seen : List Text) (name : Text) :
    (name = [] ∨ name ∈ seen) ∨ name ≠ [] ∧ name ∉ seen := by
  rw [← not_or]
  exact em _

theorem mem_fresh_iff : name ∈ fresh seen names ↔ name ∈ names ∧ name ≠ [] ∧ name ∉ seen := by
  induction names generalizing seen with
  | nil => simp [fresh]
  | cons first names ih =>
    rcases old_or_new seen first with hold | ⟨hne, hnew⟩
    · rw [fresh_cons_of_old hold, ih, List.mem_cons]
      refine and_congr_left fun ⟨hname, hunseen⟩ => (or_iff_right ?_).symm
      rintro rfl
      exact hold.elim hname hunseen
    · rw [fresh_cons_of_new hne hnew, List.mem_cons, List.mem_cons, ih, List.mem_cons]
      by_cases hname : name = first
      · subst hname
        simp [hne, hnew]
      · simp [hname]

theorem nodup_fresh (seen names : List Text) : (fresh seen names).Nodup := by
  induction names generalizing seen with
  | nil => exact List.nodup_nil
  | cons first names ih =>
    rcases old_or_new seen first with hold | ⟨hne, hnew⟩
    · rw [fresh_cons_of_old hold]
      exact ih seen
    · rw [fresh_cons_of_new hne hnew, List.nodup_cons]
      exact ⟨fun hmem => (mem_fresh_iff.mp hmem).2.2 List.mem_cons_self, ih _⟩

/-- Fresh names come in the order in which they first occur. -/
theorem pairwise_fresh (seen names : List Text) :
    (fresh seen names).Pairwise fun a b => names.idxOf a < names.idxOf b := by
  induction names generalizing seen with
  | nil => exact .nil
  | cons first names ih =>
    -- among names that are not the first one nothing changes
    have hshift : ∀ {seen}, (∀ name ∈ fresh seen names, first ≠ name) →
        (fresh seen names).Pairwise fun a b =>
          (first :: names).idxOf a < (first :: names).idxOf b := by
      intro seen hothers
      refine (ih seen).imp_of_mem fun {a b} ha hb hlt => ?_
      rw [List.idxOf_cons_ne _ (hothers a ha), List.idxOf_cons_ne _ (hothers b hb)]
      exact Nat.succ_lt_succ hlt
    rcases old_or_new seen first with hold | ⟨hne, hnew⟩
    · rw [fresh_cons_of_old hold]
      refine hshift fun name hname heq => ?_
      obtain ⟨-, hne, hunseen⟩ := mem_fresh_iff.mp hname
      exact hold.elim (fun hnil => hne (heq ▸ hnil)) fun hseen => hunseen (heq ▸ hseen)
    · have hothers : ∀ name ∈ fresh (first :: seen) names, first ≠ name := by
        rintro name hname rfl
        exact (mem_fresh_iff.mp hname).2.2 List.mem_cons_self
      rw [fresh_cons_of_new hne hnew, List.pairwise_cons]
      refine ⟨fun name hname => ?_, hshift hothers⟩
      rw [List.idxOf_cons_self, List.idxOf_cons_ne _ (hothers name hname)]
      exact Nat.succ_pos _

/-- Of the names that were seen only the set matters, and blank ones do not. -/
theorem fresh_congr {other : List Text} (h : ∀ name, name ≠ [] → (name ∈ seen ↔ name ∈ other)) :
    fresh seen names = fresh other names := by
  induction names generalizing seen other with
  | nil => rfl
  | cons first names ih =>
    by_cases hnil : first = []
    · rw [fresh_cons_of_old (.inl hnil), fresh_cons_of_old (.inl hnil), ih h]
    · by_cases hseen : first ∈ seen
      · rw [fresh_cons_of_old (.inr hseen), fresh_cons_of_old (.inr ((h first hnil).mp hseen)), ih h]
      · rw [fresh_cons_of_new hnil hseen, fresh_cons_of_new hnil (mt (h first hnil).mpr hseen)]
        refine congrArg (first :: ·) (ih fun name hname => ?_)
        rw [List.mem_cons, List.mem_cons, h name hname]

/-- Later names add what is new in them. -/
theorem fresh_append (seen earlier later : List Text) :
    fresh seen (earlier ++ later) = fresh seen earlier ++ fresh (earlier ++ seen) later := by
  induction earlier generalizing seen with
  | nil => rfl
  | cons first earlier ih =>
    rw [List.cons_append]
    rcases old_or_new seen first with hold | ⟨hne, hnew⟩
    · rw [fresh_cons_of_old hold, fresh_cons_of_old hold, ih, List.append_cancel_left_eq]
      refine fresh_congr fun name hname => ?_
      rw [List.cons_append, List.mem_cons, List.mem_append]
      refine (or_iff_right_of_imp ?_).symm
      rintro rfl
      exact .inr (hold.resolve_left hname)
    · rw [fresh_cons_of_new hne hnew, fresh_cons_of_new hne hnew, ih, List.cons_append]
      refine congrArg (fun rest => first :: (_ ++ rest)) (fresh_congr fun name _ => ?_)
      rw [List.cons_append, List.mem_append, List.mem_cons, List.mem_cons, List.mem_append]
      exact or_left_comm

theorem fresh_eq_nil_iff : fresh seen names = [] ↔ ∀ name ∈ names, name = [] ∨ name ∈ seen := by
  rw [List.eq_nil_iff_forall_not_mem]
  refine forall_congr' fun name => ?_
  rw [mem_fresh_iff, not_and, not_and_or, not_not, not_not]

/-- Names that occurred already, and blank ones, add nothing. -/
theorem fresh_append_of_old {later : List Text}
    (h : ∀ name ∈ later, name = [] ∨ name ∈ names ++ seen) :
    fresh seen (names ++ later) = fresh seen names := by
  rw [fresh_append, fresh_eq_nil_iff.mpr h, List.append_nil]

/-- Fresh names are fresh. -/
theorem fresh_fresh (seen names : List Text) : fresh seen (fresh seen names) = fresh seen names := by
  induction names generalizing seen with
  | nil => rfl
  | cons first names ih =>
    rcases old_or_new seen first with hold | ⟨hne, hnew⟩
    · rw [fresh_cons_of_old hold, ih]
    · rw [fresh_cons_of_new hne hnew, fresh_cons_of_new hne hnew, ih]

/-- Blank names may be left out before. -/
theorem fresh_filter (seen names : List Text) :
    fresh seen (names.filter fun name => !name.isEmpty) = fresh seen names := by
  induction names generalizing seen with
  | nil => rfl
  | cons first names ih =>
    by_cases hnil : first = []
    · rw [List.filter_cons_of_neg (by simp [hnil]), ih, fresh_cons_of_old (.inl hnil)]
    · rw [List.filter_cons_of_pos (by simp [hnil])]
      rcases old_or_new seen first with hold | ⟨hne, hnew⟩
      · rw [fresh_cons_of_old hold, fresh_cons_of_old hold, ih]
      · rw [fresh_cons_of_new hne hnew, fresh_cons_of_new hne hnew, ih]

end Fresh

/-! ### Import lists -/

/-- The list has the standard namespaces and those that the settings have, trimmed and without the
blank ones. -/
structure IsImportList (config : ScriptConfig) (list : List Text) : Prop where
  /-- The standard namespaces come first, in order. -/
  starts : standardNamespaces <+: list
  /-- No namespace is there twice. -/
  nodup : list.Nodup
  /-- None is blank. -/
  not_blank : ∀ name ∈ list, ∃ c ∈ name, isBlank c = false
  /-- There are the standard ones, and those of the settings that are not blank. -/
  mem_iff : ∀ name, name ∈ list ↔ name ∈ standardNamespaces ∨
    ∃ given ∈ config.namespaces, (∃ c ∈ given, isBlank c = false) ∧ given.trim = name
  /-- Those that are not standard come in the order in which they first occur when trimmed. -/
  ordered : list.Pairwise fun a b => a ∉ standardNamespaces → b ∉ standardNamespaces →
    (config.namespaces.map trim).idxOf a < (config.namespaces.map trim).idxOf b

variable {config : ScriptConfig}

/-- There is at most one import list. -/
theorem IsImportList.unique {list other : List Text} (h : config.IsImportList list)
    (hother : config.IsImportList other) : list = other := by
  obtain ⟨rest, rfl⟩ := h.starts
  obtain ⟨rest', rfl⟩ := hother.starts
  -- behind the standard namespaces there are the others, in the order of the settings
  have hothers : ∀ {rest}, config.IsImportList (standardNamespaces ++ rest) →
      (∀ name, name ∈ rest ↔ name ∉ standardNamespaces ∧ ∃ given ∈ config.namespaces,
        (∃ c ∈ given, isBlank c = false) ∧ given.trim = name) ∧
      rest.Pairwise fun a b =>
        (config.namespaces.map trim).idxOf a < (config.namespaces.map trim).idxOf b := by
    intro rest h
    have hfresh : ∀ name ∈ rest, name ∉ standardNamespaces := fun name hrest hstandard =>
      List.disjoint_of_nodup_append h.nodup hstandard hrest
    refine ⟨fun name => ⟨fun hrest => ?_, fun ⟨hnew, hgiven⟩ => ?_⟩, ?_⟩
    · have hmem := (h.mem_iff name).mp (List.mem_append_right _ hrest)
      exact ⟨hfresh name hrest, hmem.resolve_left (hfresh name hrest)⟩
    · have hmem := (h.mem_iff name).mpr (.inr hgiven)
      exact (List.mem_append.mp hmem).resolve_left hnew
    · refine (List.pairwise_append.mp h.ordered).2.1.imp_of_mem fun ha hb hlt => ?_
      exact hlt (hfresh _ ha) (hfresh _ hb)
  obtain ⟨hmem, hordered⟩ := hothers h
  obtain ⟨hmem', hordered'⟩ := hothers hother
  rw [hordered.eq_of_mem_iff hordered' fun name => (hmem name).trans (hmem' name).symm]

/-- A program imports the standard namespaces and then what is new in the settings. -/
theorem imports_eq (config : ScriptConfig) :
    config.imports =
      standardNamespaces ++ fresh standardNamespaces (config.namespaces.map trim) := by
  have hstandard : fresh [] standardNamespaces = standardNamespaces := by decide
  rw [imports, fresh_append, hstandard, List.append_nil]

/-- Imported namespaces are trimmed. -/
theorem trim_of_mem_imports {name : Text} (h : name ∈ config.imports) : name.trim = name := by
  rw [imports_eq, List.mem_append] at h
  rcases h with hstandard | hfresh
  · exact (show ∀ name ∈ standardNamespaces, name.trim = name by decide) name hstandard
  · obtain ⟨given, -, rfl⟩ := List.mem_map.mp (mem_fresh_iff.mp hfresh).1
    exact trim_trim given

/-- What a program imports is an import list. -/
theorem isImportList_imports (config : ScriptConfig) : config.IsImportList config.imports where
  starts := config.imports_eq ▸ List.prefix_append _ _
  nodup := nodup_fresh _ _
  not_blank name hname := by
    rw [← trim_ne_nil_iff, trim_of_mem_imports hname]
    exact (mem_fresh_iff.mp hname).2.1
  mem_iff name := by
    rw [imports_eq, List.mem_append, mem_fresh_iff, List.mem_map]
    by_cases hstandard : name ∈ standardNamespaces
    · exact ⟨fun _ => .inl hstandard, fun _ => .inl hstandard⟩
    · refine or_congr_right ⟨?_, ?_⟩
      · rintro ⟨⟨given, hgiven, rfl⟩, hne, -⟩
        exact ⟨given, hgiven, trim_ne_nil_iff.mp hne, rfl⟩
      · rintro ⟨given, hgiven, hblank, rfl⟩
        exact ⟨⟨given, hgiven, rfl⟩, trim_ne_nil_iff.mpr hblank, hstandard⟩
  ordered := by
    rw [imports_eq, List.pairwise_append]
    refine ⟨List.pairwise_of_forall_mem_list fun a ha b _ hnew => absurd ha hnew, ?_,
      fun a ha b _ hnew => absurd ha hnew⟩
    exact (pairwise_fresh _ _).imp fun hlt _ _ => hlt

/-! ### Other settings with the same imports -/

/-- Two settings import the same and make the same programs. -/
structure Matches (config other : ScriptConfig) : Prop where
  /-- They import the same namespaces in the same order. -/
  imports_eq : other.imports = config.imports
  /-- Whatever the code is, the programs are the same. -/
  program_eq : ∀ code, Program.ofScript other code = Program.ofScript config code

/-- Of the settings a program needs only the imports. -/
theorem matches_of_imports {other : ScriptConfig} (h : other.imports = config.imports) :
    config.Matches other :=
  ⟨h, fun code => by rw [Program.ofScript, Program.ofScript, h]⟩

/-- **What a program imports.** It is the one list that begins with the standard namespaces, in
which no namespace is blank or there twice, which has besides the standard ones just those of the
settings, trimmed, and these in the order in which they first occur. It does not change when the
settings are tidied up, when a namespace is added that they have already, with whatever blanks
around it, or that is imported anyway, or when all their namespaces are replaced by the list. -/
theorem imports_ordered_union (config : ScriptConfig) :
    (∀ list, config.IsImportList list ↔ list = config.imports) ∧
    config.Matches (config.setNamespaces config.namespaces) ∧
    (∀ name : Text, ((∃ given ∈ config.namespaces, given.trim = name.trim) ∨
        name.trim ∈ config.imports) →
      config.Matches { config with namespaces := config.namespaces ++ [name] }) ∧
    config.Matches { config with namespaces := config.imports } := by
  refine ⟨fun list => ⟨fun h => h.unique config.isImportList_imports, ?_⟩,
    matches_of_imports ?_, fun name hname => matches_of_imports ?_, matches_of_imports ?_⟩
  · rintro rfl
    exact config.isImportList_imports
  · rw [imports_eq, setNamespaces, map_trim_tidy, tidy, fresh_filter, imports_eq]
  · rw [imports, List.map_append, ← List.append_assoc]
    refine fresh_append_of_old fun other hother => ?_
    rw [List.mem_singleton.mp hother]
    rcases hname with ⟨given, hgiven, heq⟩ | himported
    · exact .inr (List.mem_append_left _ (List.mem_append_right _
        (List.mem_map.mpr ⟨given, hgiven, heq⟩)))
    · exact .inr (List.mem_append_left _ (mem_fresh_iff.mp himported).1)
  · -- the standard namespaces in the list are not fresh, and the others are still
    have hold : fresh standardNamespaces standardNamespaces = [] :=
      fresh_eq_nil_iff.mpr fun _ => .inr
    have hsame : ∀ names, fresh (standardNamespaces ++ standardNamespaces) names =
        fresh standardNamespaces names := fun names =>
      fresh_congr fun name _ => by rw [List.mem_append, or_self]
    rw [imports_eq, map_trim_of_forall fun _ => trim_of_mem_imports, imports_eq, fresh_append, hold,
      hsame, fresh_fresh, List.nil_append]

/-- A standard namespace, one given twice, and a blank one. -/
example :
    ({ namespaces := [" System.Xml".toList, "System.Linq".toList, " ".toList, "A".toList,
        "System.Xml\t".toList] } : ScriptConfig).imports =
      standardNamespaces ++ ["System.Xml".toList, "A".toList] := by decide

end ScriptDesk.ScriptConfig
