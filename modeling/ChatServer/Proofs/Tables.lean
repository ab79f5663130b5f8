import ChatServer.Table

/-! What a table holds, as a list of entries. Setting and erasing are described up to the order of
the entries, so that sizes and key lists follow from one permutation each.
-/

namespace ChatServer.Table

variable {κ ν : Type} [DecidableEq κ]

-----------------------------------------------------------------------------------------
-- Membership
-----------------------------------------------------------------------------------------

@[simp] theorem get?_empty (key : κ) : ({} : Table κ ν).get? key = none :=
  rfl

/-- A value that is found under a key is an entry. -/
theorem mem_of_get? {table : Table κ ν} {key : κ} {value : ν}
    (found : table.get? key = some value)
    : (key, value) ∈ table.entries := by
  obtain ⟨before, after, split, _⟩ := List.lookup_eq_some_iff.mp found
  simp [split]

/-- In a table without repeated keys every entry is found under its key. -/
theorem get?_of_mem {table : Table κ ν} (distinct : table.Distinct) {key : κ} {value : ν}
    (member : (key, value) ∈ table.entries)
    : table.get? key = some value := by
  obtain ⟨before, after, split⟩ := List.append_of_mem member
  refine List.lookup_eq_some_iff.mpr ⟨before, after, split, ?_⟩
  intro entry earlier
  have apart : (before.map (·.1) ++ key :: after.map (·.1)).Nodup := by
    simpa [Distinct, keys, split] using distinct
  have differ := (List.nodup_append.mp apart).2.2 entry.1 (List.mem_map_of_mem earlier) key
    (by simp)
  exact bne_iff_ne.mpr (Ne.symm differ)

/-- The order of the entries of a table without repeated keys makes no difference. -/
theorem get?_eq_of_perm {table other : Table κ ν} (distinct : table.Distinct)
    (perm : other.entries.Perm table.entries) (key : κ)
    : other.get? key = table.get? key := by
  have names : other.keys.Perm table.keys := perm.map Prod.fst
  have apart : other.Distinct := names.nodup_iff.mpr distinct
  cases found : table.get? key with
  | some value => exact get?_of_mem apart (perm.mem_iff.mpr (mem_of_get? found))
  | none =>
      cases there : other.get? key with
      | none => rfl
      | some value =>
          rw [get?_of_mem distinct (perm.mem_iff.mp (mem_of_get? there))] at found
          cases found

/-- A key is one of the keys of a table when a value is found under it. -/
theorem mem_keys_iff {table : Table κ ν} {key : κ}
    : key ∈ table.keys ↔ ∃ value, table.get? key = some value := by
  constructor
  · intro member
    obtain ⟨entry, held, same⟩ := List.mem_map.mp member
    refine Option.isSome_iff_exists.mp (List.lookup_isSome_iff.mpr ?_)
    exact ⟨entry, held, beq_iff_eq.mpr same.symm⟩
  · rintro ⟨value, found⟩
    exact List.mem_map.mpr ⟨(key, value), mem_of_get? found, rfl⟩

/-- A key without a value is none of the keys. -/
theorem not_mem_keys {table : Table κ ν} {key : κ} (absent : table.get? key = none)
    : key ∉ table.keys := by
  rw [mem_keys_iff, absent]
  simp

/-- Taking away a key that no entry has takes away nothing. -/
theorem filter_of_absent {key : κ} {entries : List (κ × ν)} (absent : key ∉ entries.map (·.1))
    : entries.filter (·.1 ≠ key) = entries := by
  apply List.filter_eq_self.mpr
  intro entry member
  have differ : entry.1 ≠ key := by
    rintro rfl
    exact absent (List.mem_map_of_mem member)
  simpa using differ

/-- A key that has no value is erased without an effect. -/
theorem erase_of_absent {table : Table κ ν} {key : κ} (absent : table.get? key = none)
    : table.erase key = table := by
  rw [erase, filter_of_absent (not_mem_keys absent)]

-----------------------------------------------------------------------------------------
-- Setting and erasing up to order
-----------------------------------------------------------------------------------------

theorem setIn_perm (key : κ) (value : ν) {entries : List (κ × ν)}
    (distinct : (entries.map (·.1)).Nodup)
    : (setIn key value entries).Perm ((key, value) :: entries.filter (·.1 ≠ key)) := by
  induction entries with
  | nil => exact .rfl
  | cons entry rest ih =>
    obtain ⟨absent, restDistinct⟩ := List.nodup_cons.mp distinct
    rw [setIn]
    split
    next same =>
      subst same
      rw [List.filter_cons_of_neg (by simp), filter_of_absent absent]
    next differ =>
      rw [List.filter_cons_of_pos (by simpa using differ)]
      exact ((ih restDistinct).cons entry).trans (.swap _ _ _)

/-- Setting a key puts one entry in the place of what was under the key. -/
theorem set_perm {table : Table κ ν} (distinct : table.Distinct) (key : κ) (value : ν)
    : (table.set key value).entries.Perm ((key, value) :: (table.erase key).entries) :=
  setIn_perm key value distinct

/-- An entry and what is left without it make up the table. -/
theorem perm_of_get? {table : Table κ ν} (distinct : table.Distinct) {key : κ} {value : ν}
    (found : table.get? key = some value)
    : table.entries.Perm ((key, value) :: (table.erase key).entries) := by
  obtain ⟨before, after, split, _⟩ := List.lookup_eq_some_iff.mp found
  have apart : (before.map (·.1) ++ key :: after.map (·.1)).Nodup := by
    simpa [Distinct, keys, split] using distinct
  obtain ⟨_, tail, between⟩ := List.nodup_append.mp apart
  have inFront : key ∉ before.map (·.1) := fun member =>
    between key member key (by simp) rfl
  have behind : key ∉ after.map (·.1) := (List.nodup_cons.mp tail).1
  have rest : (table.erase key).entries = before ++ after := by
    rw [erase, split, List.filter_append, List.filter_cons_of_neg (by simp),
      filter_of_absent inFront, filter_of_absent behind]
  rw [rest, split]
  exact List.perm_middle

omit [DecidableEq κ] in
/-- A table has as many keys as entries. -/
theorem length_keys (table : Table κ ν) : table.keys.length = table.size :=
  List.length_map _

/-- Setting a new key makes a table one larger, and setting an old one does not. -/
theorem size_set (table : Table κ ν) (key : κ) (value : ν)
    : (table.set key value).size
      = if key ∈ table.keys then table.size else table.size + 1 := by
  rw [← length_keys, keys_set, ← length_keys table]
  split
  next => rfl
  next => rw [List.length_append, List.length_singleton]

/-- Of two values that are put under the same key, the later one stays. -/
theorem set_set (table : Table κ ν) (key : κ) (value later : ν)
    : (table.set key value).set key later = table.set key later := by
  suffices whole : ∀ entries : List (κ × ν),
      setIn key later (setIn key value entries) = setIn key later entries by
    exact congrArg Table.mk (whole table.entries)
  intro entries
  induction entries with
  | nil => simp [setIn]
  | cons entry rest ih =>
      simp only [setIn]
      split
      next => simp [setIn]
      next differ => simp [setIn, differ, ih]

/-- Setting a key that has a value counts the new value in place of the old one. -/
theorem countP_set {table : Table κ ν} (distinct : table.Distinct) {key : κ} {old : ν}
    (found : table.get? key = some old) (new : ν) (p : ν → Bool)
    : (table.set key new).entries.countP (p ·.2) + (p old).toNat
      = table.entries.countP (p ·.2) + (p new).toNat := by
  rw [(set_perm distinct key new).countP_eq, (perm_of_get? distinct found).countP_eq,
    List.countP_cons, List.countP_cons]
  cases p old <;> cases p new <;> simp

/-- Setting a new key counts its value. -/
theorem countP_set_of_absent {table : Table κ ν} (distinct : table.Distinct) {key : κ}
    (absent : table.get? key = none) (new : ν) (p : ν → Bool)
    : (table.set key new).entries.countP (p ·.2)
      = table.entries.countP (p ·.2) + (p new).toNat := by
  rw [(set_perm distinct key new).countP_eq, erase_of_absent absent, List.countP_cons]
  cases p new <;> rfl

-----------------------------------------------------------------------------------------
-- Changing every value
-----------------------------------------------------------------------------------------

variable {ν' : Type}

/-- The table with every value changed. -/
def map (change : ν → ν') (table : Table κ ν) : Table κ ν' :=
  ⟨table.entries.map fun entry => (entry.1, change entry.2)⟩

theorem get?_map (change : ν → ν') (table : Table κ ν) (key : κ)
    : (table.map change).get? key = (table.get? key).map change := by
  obtain ⟨entries⟩ := table
  simp only [get?, map]
  induction entries with
  | nil => rfl
  | cons entry rest ih =>
      rw [List.map_cons, lookup_head, ih, ← Prod.eta entry, lookup_head]
      split <;> rfl

theorem map_set (change : ν → ν') (table : Table κ ν) (key : κ) (value : ν)
    : (table.set key value).map change = (table.map change).set key (change value) := by
  obtain ⟨entries⟩ := table
  simp only [set, map, mk.injEq]
  induction entries with
  | nil => rfl
  | cons entry rest ih =>
      rw [setIn, List.map_cons, setIn]
      split
      next => rfl
      next => rw [List.map_cons, ih]

theorem map_erase (change : ν → ν') (table : Table κ ν) (key : κ)
    : (table.erase key).map change = (table.map change).erase key := by
  simp only [erase, map, List.filter_map]
  rfl

omit [DecidableEq κ] in
@[simp] theorem keys_map (change : ν → ν') (table : Table κ ν)
    : (table.map change).keys = table.keys := by
  simp [keys, map]

omit [DecidableEq κ] in
@[simp] theorem size_map (change : ν → ν') (table : Table κ ν)
    : (table.map change).size = table.size := by
  simp [size, map]

end ChatServer.Table
