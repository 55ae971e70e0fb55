/-!
# Tables

A table holds one value for each of finitely many keys and remembers the order in which the keys
came in. Its entries have no key twice, which is part of the type.

Main statements: `get?_set`, `get?_erase` and `mem_keys_iff` say what each operation does to a
look-up; `keys_set` and `keys_erase` say what it does to the order.
-/

namespace ScriptDesk

/-- A finite map from keys to values, in the order in which the keys came in. -/
structure Table (κ α : Type) where
  /-- The keys with their values. -/
  entries : List (κ × α)
  /-- No key is there twice. -/
  nodup : (entries.map Prod.fst).Nodup

namespace Table

variable {κ α : Type} [DecidableEq κ]

/-- The table without entries. -/
def empty : Table κ α :=
  ⟨[], by simp⟩

instance : Inhabited (Table κ α) := ⟨⟨[], by simp⟩⟩

/-- The keys in order. -/
def keys (table : Table κ α) : List κ :=
  table.entries.map Prod.fst

/-- How many keys there are. -/
def size (table : Table κ α) : Nat :=
  table.entries.length

/-- The value of a key among entries. -/
def find? (key : κ) : List (κ × α) → Option α
  | [] => none
  | (other, value) :: rest => if key = other then some value else find? key rest

/-- The value of a key. -/
def get? (table : Table κ α) (key : κ) : Option α :=
  find? key table.entries

/-- The key has a value. -/
def contains (table : Table κ α) (key : κ) : Bool :=
  (table.get? key).isSome

/-- Entries with the value of one key replaced, or the key put at the end. -/
def put (key : κ) (value : α) : List (κ × α) → List (κ × α)
  | [] => [(key, value)]
  | (other, old) :: rest =>
    if key = other then (key, value) :: rest else (other, old) :: put key value rest

theorem map_fst_put (key : κ) (value : α) (entries : List (κ × α)) :
    (put key value entries).map Prod.fst =
      if key ∈ entries.map Prod.fst then entries.map Prod.fst
      else entries.map Prod.fst ++ [key] := by
  induction entries with
  | nil => simp [put]
  | cons entry rest ih =>
    obtain ⟨other, old⟩ := entry
    by_cases h : key = other
    · simp [put, h]
    · simp only [put, h, if_false, List.map_cons, ih, List.mem_cons, false_or]
      split <;> simp

theorem find?_put (key other : κ) (value : α) (entries : List (κ × α)) :
    find? other (put key value entries) =
      if other = key then some value else find? other entries := by
  induction entries with
  | nil => simp [put, find?]
  | cons entry rest ih =>
    obtain ⟨first, old⟩ := entry
    by_cases hk : key = first
    · subst hk
      by_cases ho : other = key <;> simp [put, find?, ho]
    · by_cases ho : other = first
      · subst ho
        have : other ≠ key := fun h => hk h.symm
        simp [put, find?, hk, this]
      · simp [put, find?, hk, ho, ih]

theorem find?_filter_ne (key other : κ) (entries : List (κ × α)) :
    find? other (entries.filter (·.1 ≠ key)) =
      if other = key then none else find? other entries := by
  induction entries with
  | nil => simp [find?]
  | cons entry rest ih =>
    obtain ⟨first, old⟩ := entry
    by_cases hk : first = key
    · subst hk
      rw [List.filter_cons_of_neg (by simp), ih]
      by_cases ho : other = first <;> simp [find?, ho]
    · rw [List.filter_cons_of_pos (by simp [hk])]
      by_cases ho : other = first
      · subst ho
        simp [find?, hk]
      · rw [find?, if_neg ho, ih, find?, if_neg ho]

/-- The table with a value for one key. -/
def set (table : Table κ α) (key : κ) (value : α) : Table κ α :=
  ⟨put key value table.entries, by
    rw [map_fst_put]
    split
    · exact table.nodup
    · rename_i h
      rw [List.nodup_append]
      refine ⟨table.nodup, by simp, ?_⟩
      intro a ha b hb
      simp only [List.mem_singleton] at hb
      subst hb
      exact fun hab => h (hab ▸ ha)⟩

/-- The table without one key. -/
def erase (table : Table κ α) (key : κ) : Table κ α :=
  ⟨table.entries.filter (·.1 ≠ key),
    (List.filter_sublist.map Prod.fst).nodup table.nodup⟩

/-- The table with the value of one key changed, if the key is there. -/
def modify (table : Table κ α) (key : κ) (change : α → α) : Table κ α :=
  match table.get? key with
  | some value => table.set key (change value)
  | none => table

@[simp] theorem get?_empty (key : κ) : (empty : Table κ α).get? key = none := rfl

theorem get?_set (table : Table κ α) (key other : κ) (value : α) :
    (table.set key value).get? other = if other = key then some value else table.get? other :=
  find?_put key other value table.entries

@[simp] theorem get?_set_self (table : Table κ α) (key : κ) (value : α) :
    (table.set key value).get? key = some value := by
  simp [get?_set]

theorem get?_set_of_ne (table : Table κ α) {key other : κ} (h : other ≠ key) (value : α) :
    (table.set key value).get? other = table.get? other := by
  simp [get?_set, h]

theorem get?_erase (table : Table κ α) (key other : κ) :
    (table.erase key).get? other = if other = key then none else table.get? other :=
  find?_filter_ne key other table.entries

@[simp] theorem get?_erase_self (table : Table κ α) (key : κ) :
    (table.erase key).get? key = none := by
  simp [get?_erase]

theorem get?_erase_of_ne (table : Table κ α) {key other : κ} (h : other ≠ key) :
    (table.erase key).get? other = table.get? other := by
  simp [get?_erase, h]

theorem keys_set (table : Table κ α) (key : κ) (value : α) :
    (table.set key value).keys = if key ∈ table.keys then table.keys else table.keys ++ [key] :=
  map_fst_put key value table.entries

theorem keys_erase (table : Table κ α) (key : κ) :
    (table.erase key).keys = table.keys.filter (· ≠ key) := by
  simp only [keys, erase, List.filter_map]
  rfl

/-- The keys are those that have a value. -/
theorem mem_keys_iff (table : Table κ α) (key : κ) :
    key ∈ table.keys ↔ (table.get? key).isSome := by
  simp only [keys, get?]
  induction table.entries with
  | nil => simp [find?]
  | cons entry rest ih =>
    obtain ⟨first, old⟩ := entry
    by_cases h : key = first
    · simp [find?, h]
    · simp [find?, h, ih]

/-- The entries are those that a look-up finds. -/
theorem mem_entries_iff (table : Table κ α) (key : κ) (value : α) :
    (key, value) ∈ table.entries ↔ table.get? key = some value := by
  obtain ⟨entries, hnodup⟩ := table
  simp only [get?]
  induction entries with
  | nil => simp [find?]
  | cons entry rest ih =>
    obtain ⟨first, old⟩ := entry
    obtain ⟨hfresh, hrest⟩ := List.nodup_cons.mp hnodup
    rw [List.mem_cons, ih hrest, find?]
    by_cases h : key = first
    · subst h
      have habsent : find? key rest ≠ some value := fun hfound =>
        hfresh (List.mem_map.mpr ⟨_, (ih hrest).mpr hfound, rfl⟩)
      simp [habsent, eq_comm]
    · simp [h]

theorem put_of_find?_eq_none {key : κ} {entries : List (κ × α)} (h : find? key entries = none)
    (value : α) : put key value entries = entries ++ [(key, value)] := by
  induction entries with
  | nil => rfl
  | cons entry rest ih =>
    obtain ⟨first, old⟩ := entry
    by_cases hfirst : key = first
    · simp [find?, hfirst] at h
    · rw [find?, if_neg hfirst] at h
      rw [put, if_neg hfirst, ih h]
      rfl

theorem put_put (key : κ) (first second : α) (entries : List (κ × α)) :
    put key second (put key first entries) = put key second entries := by
  induction entries with
  | nil => simp [put]
  | cons entry rest ih =>
    obtain ⟨other, old⟩ := entry
    by_cases h : key = other <;> simp [put, h, ih]

/-- Of two values for one key the second stays. -/
@[simp] theorem set_set (table : Table κ α) (key : κ) (first second : α) :
    (table.set key first).set key second = table.set key second := by
  simp only [set, mk.injEq]
  exact put_put key first second table.entries

/-- A key that has just got a value has the changed value afterwards. -/
@[simp] theorem modify_set (table : Table κ α) (key : κ) (value : α) (change : α → α) :
    (table.set key value).modify key change = table.set key (change value) := by
  simp [modify]

/-- A new key is put at the end. -/
theorem entries_set_of_get?_eq_none (table : Table κ α) {key : κ} (h : table.get? key = none)
    (value : α) : (table.set key value).entries = table.entries ++ [(key, value)] :=
  put_of_find?_eq_none h value

/-- Apart from the order, a key is taken out with its value. -/
theorem perm_entries_erase (table : Table κ α) {key : κ} {value : α}
    (h : table.get? key = some value) :
    table.entries.Perm ((key, value) :: (table.erase key).entries) := by
  obtain ⟨entries, hnodup⟩ := table
  simp only [get?, erase] at h ⊢
  induction entries with
  | nil => cases h
  | cons entry rest ih =>
    obtain ⟨first, old⟩ := entry
    obtain ⟨hfresh, hrest⟩ := List.nodup_cons.mp hnodup
    by_cases hfirst : key = first
    · subst hfirst
      rw [find?, if_pos rfl] at h
      cases h
      have hself : rest.filter (·.1 ≠ key) = rest := by
        refine List.filter_eq_self.mpr fun other hother => decide_eq_true ?_
        rintro rfl
        exact hfresh (List.mem_map.mpr ⟨other, hother, rfl⟩)
      rw [List.filter_cons_of_neg (by simp), hself]
    · rw [find?, if_neg hfirst] at h
      rw [List.filter_cons_of_pos (by simp [Ne.symm hfirst])]
      exact ((ih hrest h).cons _).trans (.swap _ _ _)
end Table

end ScriptDesk
