/-!
Finite tables: association lists in the order in which their keys first arrived. A key is put once;
putting it again keeps its place and replaces its value. Event contexts, windows and detector
entries are tables.
-/

namespace FuelTelemetry

abbrev Table (κ α : Type) := List (κ × α)

namespace Table

variable {κ α : Type} [DecidableEq κ]

def get? (key : κ) : Table κ α → Option α
  | [] => none
  | (k, value) :: rest => if k = key then some value else get? key rest

def put (key : κ) (value : α) : Table κ α → Table κ α
  | [] => [(key, value)]
  | (k, old) :: rest =>
    if k = key then (k, value) :: rest else (k, old) :: put key value rest

def erase (key : κ) (table : Table κ α) : Table κ α :=
  table.filter fun entry => entry.1 ≠ key

def contains (key : κ) (table : Table κ α) : Bool :=
  (table.get? key).isSome

def keys (table : Table κ α) : List κ :=
  table.map Prod.fst

def merge (table : Table κ α) (entries : List (κ × α)) : Table κ α :=
  entries.foldl (fun t entry => t.put entry.1 entry.2) table

@[simp] theorem get?_nil (key : κ) : get? key ([] : Table κ α) = none := rfl

theorem get?_of_mem {table : Table κ α} (distinct : table.keys.Nodup) {key : κ} {value : α}
    (listed : (key, value) ∈ table) : table.get? key = some value := by
  induction table with
  | nil => cases listed
  | cons entry rest ih =>
    obtain ⟨others, distinct⟩ := List.nodup_cons.1 distinct
    rcases List.mem_cons.1 listed with rfl | listed
    · simp [get?]
    · have other : entry.1 ≠ key := by
        rintro rfl
        exact others (List.mem_map.2 ⟨(entry.1, value), listed, rfl⟩)
      rw [get?, if_neg other]
      exact ih distinct listed

theorem get?_isSome_iff {key : κ} {table : Table κ α} :
    (table.get? key).isSome ↔ key ∈ table.keys := by
  induction table with
  | nil => simp [keys]
  | cons entry rest ih =>
    by_cases same : entry.1 = key
    · simp [get?, keys, same]
    · rw [get?, if_neg same, ih, keys, keys, List.map_cons, List.mem_cons]
      exact (or_iff_right (Ne.symm same)).symm

theorem get?_put_self (key : κ) (value : α) (table : Table κ α) :
    get? key (put key value table) = some value := by
  induction table with
  | nil => simp [put, get?]
  | cons entry rest ih =>
    obtain ⟨k, old⟩ := entry
    by_cases h : k = key <;> simp [put, get?, h, ih]

theorem get?_put_of_ne {key other : κ} (h : other ≠ key) (value : α) (table : Table κ α) :
    get? other (put key value table) = get? other table := by
  induction table with
  | nil => simp [put, get?, Ne.symm h]
  | cons entry rest ih =>
    obtain ⟨k, old⟩ := entry
    by_cases hk : k = key
    · subst hk; simp [put, get?, Ne.symm h]
    · by_cases ho : k = other
      · subst ho; simp [put, get?, hk]
      · simp [put, get?, hk, ho, ih]

theorem mem_keys_put {key other : κ} {value : α} {table : Table κ α} :
    other ∈ (table.put key value).keys ↔ other = key ∨ other ∈ table.keys := by
  rw [← get?_isSome_iff, ← get?_isSome_iff]
  by_cases same : other = key
  · subst same
    simp [get?_put_self]
  · simp [get?_put_of_ne same, same]

theorem nodup_keys_put {table : Table κ α} (distinct : table.keys.Nodup) (key : κ) (value : α) :
    (table.put key value).keys.Nodup := by
  induction table with
  | nil => simp [put, keys]
  | cons entry rest ih =>
    obtain ⟨others, distinct⟩ := List.nodup_cons.1 distinct
    by_cases same : entry.1 = key
    · rw [put, if_pos same]
      exact List.nodup_cons.2 ⟨others, distinct⟩
    · rw [put, if_neg same]
      refine List.nodup_cons.2 ⟨fun listed => ?_, ih distinct⟩
      exact (mem_keys_put.1 listed).elim same others

theorem merge_concat (table : Table κ α) (entries : List (κ × α)) (entry : κ × α) :
    table.merge (entries ++ [entry]) = (table.merge entries).put entry.1 entry.2 := by
  simp [merge]

theorem get?_erase_self (key : κ) (table : Table κ α) : get? key (erase key table) = none := by
  induction table with
  | nil => rfl
  | cons entry rest ih =>
    obtain ⟨k, old⟩ := entry
    by_cases h : k = key
    · simpa [erase, h] using ih
    · simpa [erase, h, get?] using ih

theorem get?_erase_of_ne {key other : κ} (h : other ≠ key) (table : Table κ α) :
    get? other (erase key table) = get? other table := by
  induction table with
  | nil => rfl
  | cons entry rest ih =>
    obtain ⟨k, old⟩ := entry
    by_cases hk : k = key
    · subst hk; simpa [erase, get?, Ne.symm h] using ih
    · by_cases ho : k = other
      · subst ho; simp [erase, get?, hk]
      · simpa [erase, get?, hk, ho] using ih

end Table

end FuelTelemetry
