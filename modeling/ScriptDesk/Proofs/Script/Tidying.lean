import ScriptDesk.Proofs.Text.Lines
import ScriptDesk.Script.Config

/-!
# Tidy namespaces

To tidy namespaces up is to drop those that are blank and to trim the others (`tidy_eq`). What is
left is trimmed and not blank (`of_mem_tidy`), and nothing is done to namespaces like these, so that
tidying up twice is tidying up once (`tidy_tidy`).
-/

namespace ScriptDesk.ScriptConfig

open Text

theorem trim_ne_nil_iff {text : Text} : text.trim ≠ [] ↔ ∃ c ∈ text, isBlank c = false := by
  rw [ne_eq, trim_eq_nil_iff]
  simp

theorem tidy_eq (names : List Text) :
    tidy names = (names.filter fun name => name.any fun c => !isBlank c).map trim := by
  rw [tidy, List.filter_map]
  congr 1
  refine List.filter_congr fun name _ => ?_
  rw [Function.comp, Bool.eq_iff_iff, Bool.not_eq_true', List.isEmpty_eq_false_iff,
    trim_ne_nil_iff]
  simp

theorem tidy_append (names others : List Text) :
    tidy (names ++ others) = tidy names ++ tidy others := by
  rw [tidy, List.map_append, List.filter_append]
  rfl

theorem tidy_cons (name : Text) (names : List Text) :
    tidy (name :: names) = tidy [name] ++ tidy names :=
  tidy_append [name] names

theorem tidy_congr {name other : Text} (h : name.trim = other.trim) :
    tidy [name] = tidy [other] := by
  simp [tidy, h]

/-- What is left are trimmed names, none of them blank. -/
theorem of_mem_tidy {names : List Text} {name : Text} (h : name ∈ tidy names) :
    name.trim = name ∧ ∃ c ∈ name, isBlank c = false := by
  obtain ⟨hmem, hne⟩ := List.mem_filter.mp h
  obtain ⟨given, -, rfl⟩ := List.mem_map.mp hmem
  have htrim : given.trim.trim = given.trim := trim_trim given
  refine ⟨htrim, trim_ne_nil_iff.mp ?_⟩
  rw [htrim]
  simpa using hne

theorem map_trim_of_forall {names : List Text} (h : ∀ name ∈ names, name.trim = name) :
    names.map trim = names :=
  (List.map_congr_left h).trans (List.map_id _)

theorem map_trim_tidy (names : List Text) : (tidy names).map trim = tidy names :=
  map_trim_of_forall fun _ hname => (of_mem_tidy hname).1

/-- Tidying up twice is tidying up once. -/
theorem tidy_tidy (names : List Text) : tidy (tidy names) = tidy names := by
  rw [tidy, map_trim_tidy, List.filter_eq_self]
  exact fun name hname => (List.mem_filter.mp hname).2

end ScriptDesk.ScriptConfig
