/-!
Tables: values under keys, each key at most once, in the order in which the keys first came.
Setting and erasing a key change what is found under that key and under no other.
-/

namespace ChatServer

structure Table (κ ν : Type) where
  entries : List (κ × ν) := []

namespace Table

variable {κ ν : Type} [DecidableEq κ]

instance : Inhabited (Table κ ν) := ⟨{}⟩

def get? (table : Table κ ν) (key : κ) : Option ν :=
  table.entries.lookup key

/-- Puts a value under a key of a list, in place of the value it has or at the end. -/
def setIn (key : κ) (value : ν) : List (κ × ν) → List (κ × ν)
  | [] => [(key, value)]
  | entry :: rest =>
    if entry.1 = key then (key, value) :: rest else entry :: setIn key value rest

def set (table : Table κ ν) (key : κ) (value : ν) : Table κ ν :=
  ⟨setIn key value table.entries⟩

/-- Takes away a key and what is under it. -/
def erase (table : Table κ ν) (key : κ) : Table κ ν :=
  ⟨table.entries.filter (·.1 ≠ key)⟩

def size (table : Table κ ν) : Nat :=
  table.entries.length

def keys (table : Table κ ν) : List κ :=
  table.entries.map (·.1)

def contains (table : Table κ ν) (key : κ) : Bool :=
  (table.get? key).isSome

/-- No key comes twice. -/
def Distinct (table : Table κ ν) : Prop :=
  table.keys.Nodup

theorem lookup_head (name other : κ) (value : ν) (rest : List (κ × ν))
    : List.lookup other ((name, value) :: rest)
      = if other = name then some value else rest.lookup other := by
  rw [List.lookup_cons]
  by_cases same : other = name
  · simp [same]
  · have differ : (other == name) = false := by simpa using same
    simp [same, differ]

theorem lookup_setIn (key other : κ) (value : ν) (entries : List (κ × ν))
    : (setIn key value entries).lookup other
      = if other = key then some value else entries.lookup other := by
  induction entries with
  | nil => rw [setIn, lookup_head]
  | cons entry rest ih =>
    obtain ⟨name, old⟩ := entry
    rw [setIn]
    by_cases same : name = key
    · subst same
      rw [if_pos rfl, lookup_head, lookup_head]
      by_cases found : other = name <;> simp [found]
    · rw [if_neg same, lookup_head, lookup_head, ih]
      by_cases found : other = name
      · subst found; simp [same]
      · simp [found]

/-- After setting a key, it has the new value and every other key has what it had. -/
theorem get?_set (table : Table κ ν) (key other : κ) (value : ν)
    : (table.set key value).get? other = if other = key then some value else table.get? other :=
  lookup_setIn key other value table.entries

theorem lookup_filter_ne (key other : κ) (entries : List (κ × ν))
    : (entries.filter (·.1 ≠ key)).lookup other
      = if other = key then none else entries.lookup other := by
  induction entries with
  | nil => simp
  | cons entry rest ih =>
    obtain ⟨name, old⟩ := entry
    rw [lookup_head]
    by_cases same : name = key
    · subst same
      rw [List.filter_cons_of_neg (by simp), ih]
      by_cases found : other = name <;> simp [found]
    · rw [List.filter_cons_of_pos (by simpa using same), lookup_head, ih]
      by_cases found : other = name
      · subst found; simp [same]
      · simp [found]

/-- After erasing a key, it has no value and every other key has what it had. -/
theorem get?_erase (table : Table κ ν) (key other : κ)
    : (table.erase key).get? other = if other = key then none else table.get? other :=
  lookup_filter_ne key other table.entries

theorem map_fst_setIn (key : κ) (value : ν) (entries : List (κ × ν))
    : (setIn key value entries).map (·.1)
      = if key ∈ entries.map (·.1) then entries.map (·.1) else entries.map (·.1) ++ [key] := by
  induction entries with
  | nil => simp [setIn]
  | cons entry rest ih =>
    obtain ⟨name, old⟩ := entry
    simp only [setIn]
    split
    next same => have same : name = key := same; simp [same]
    next differ =>
      have differ : key ≠ name := fun same => differ same.symm
      simp only [List.map_cons, ih, List.mem_cons, differ, false_or]
      split <;> simp

/-- Setting a key keeps the order of the keys, and a new key comes last. -/
theorem keys_set (table : Table κ ν) (key : κ) (value : ν)
    : (table.set key value).keys
      = if key ∈ table.keys then table.keys else table.keys ++ [key] :=
  map_fst_setIn key value table.entries

/-- Setting a key never makes one come twice. -/
theorem Distinct.set {table : Table κ ν} (h : table.Distinct) (key : κ) (value : ν)
    : (table.set key value).Distinct := by
  unfold Distinct at *
  rw [keys_set]
  split
  next => exact h
  next absent =>
    rw [List.nodup_append]
    exact ⟨h, by simp, fun a mem b last same => absent (by simp_all)⟩

/-- Erasing a key never makes one come twice. -/
theorem Distinct.erase {table : Table κ ν} (h : table.Distinct) (key : κ)
    : (table.erase key).Distinct :=
  h.sublist (List.filter_sublist.map _)

end Table

end ChatServer
