/-!
Tables file values under distinct keys. Lookups depend only on the key; the order
of the entries is kept so that a pass over a table is a list traversal.
The lemmas say what each operation does to lookups and to the set of keys.
-/
namespace PageSession

universe u

/-- Entries under pairwise distinct keys. -/
structure Table (α : Type u) where
  entries : List (String × α) := []
  distinct : (entries.map Prod.fst).Nodup := by exact List.nodup_nil

namespace Table
variable {α : Type u}

/-- The keys in entry order. -/
def keys (table : Table α) : List String := table.entries.map Prod.fst

/-- The values in entry order. -/
def values (table : Table α) : List α := table.entries.map Prod.snd

def size (table : Table α) : Nat := table.entries.length

def isEmpty (table : Table α) : Bool := table.entries.isEmpty

/-- The value filed under a key. -/
def find? (table : Table α) (key : String) : Option α :=
  (table.entries.find? fun entry => entry.1 == key).map Prod.snd

def contains (table : Table α) (key : String) : Bool :=
  table.entries.any fun entry => entry.1 == key

/-- An entry list with one key filed anew: in place when present, last otherwise. -/
def put (key : String) (value : α) : List (String × α) → List (String × α)
  | [] => [(key, value)]
  | (k, v) :: rest => if k = key then (k, value) :: rest else (k, v) :: put key value rest

theorem keys_put (key : String) (value : α) (entries : List (String × α)) :
    (put key value entries).map Prod.fst =
      if key ∈ entries.map Prod.fst then entries.map Prod.fst
      else entries.map Prod.fst ++ [key] := by
  induction entries with
  | nil => simp [put]
  | cons head tail ih =>
    obtain ⟨k, v⟩ := head
    by_cases same : k = key
    · simp [put, same]
    · have different : key ≠ k := fun equal => same equal.symm
      simp only [put, same, if_false, List.map_cons, ih, List.mem_cons, different, false_or]
      split <;> rfl

private theorem nodup_put (key : String) (value : α) (entries : List (String × α))
    (distinct : (entries.map Prod.fst).Nodup) :
    ((put key value entries).map Prod.fst).Nodup := by
  rw [keys_put]
  split
  · exact distinct
  · rename_i absent
    refine List.nodup_append.mpr ⟨distinct, by simp, ?_⟩
    intro a member b single
    simp only [List.mem_singleton] at single
    intro equal
    exact absent (single ▸ equal ▸ member)

/-- Files a value, replacing the value already filed under the key. -/
def insert (table : Table α) (key : String) (value : α) : Table α :=
  { entries := put key value table.entries
    distinct := nodup_put key value table.entries table.distinct }

private theorem nodup_kept (keep : String × α → Bool) (entries : List (String × α))
    (distinct : (entries.map Prod.fst).Nodup) :
    ((entries.filter keep).map Prod.fst).Nodup :=
  List.Nodup.sublist (List.filter_sublist.map Prod.fst) distinct

/-- The entries that satisfy a test. -/
def filter (table : Table α) (keep : String × α → Bool) : Table α :=
  { entries := table.entries.filter keep
    distinct := nodup_kept keep table.entries table.distinct }

/-- Removes the entry under a key, if there is one. -/
def erase (table : Table α) (key : String) : Table α :=
  table.filter fun entry => entry.1 != key

@[simp] theorem find?_empty (key : String) : ({} : Table α).find? key = none := rfl

theorem contains_eq_isSome (table : Table α) (key : String) :
    table.contains key = (table.find? key).isSome := by
  simp only [contains, find?, Option.isSome_map]
  induction table.entries with
  | nil => rfl
  | cons head tail ih => by_cases same : head.1 == key <;> simp [same, ih]

private theorem find_put (key other : String) (value : α) (entries : List (String × α)) :
    ((put key value entries).find? fun entry => entry.1 == other).map Prod.snd =
      if other = key then some value
      else (entries.find? fun entry => entry.1 == other).map Prod.snd := by
  induction entries with
  | nil =>
    by_cases same : other = key
    · simp [put, same]
    · have different : key ≠ other := fun equal => same equal.symm
      simp [put, same, different]
  | cons head tail ih =>
    obtain ⟨k, v⟩ := head
    by_cases here : k = key
    · subst here
      by_cases same : other = k
      · simp [put, same]
      · have different : k ≠ other := fun equal => same equal.symm
        simp [put, same, different]
    · by_cases found : k = other
      · have different : other ≠ key := fun equal => here (found.trans equal)
        simp [put, found, different]
      · simp [put, here, found, ih]

/-- Filing changes the lookup of its own key only. -/
theorem find?_insert (table : Table α) (key other : String) (value : α) :
    (table.insert key value).find? other =
      if other = key then some value else table.find? other :=
  find_put key other value table.entries

private theorem find_kept (key other : String) (entries : List (String × α)) :
    ((entries.filter fun entry => entry.1 != key).find? fun entry => entry.1 == other).map
        Prod.snd =
      if other = key then none
      else (entries.find? fun entry => entry.1 == other).map Prod.snd := by
  induction entries with
  | nil => simp
  | cons head tail ih =>
    obtain ⟨k, v⟩ := head
    by_cases here : k = key
    · subst here
      by_cases same : other = k
      · simp [same]
      · have different : k ≠ other := fun equal => same equal.symm
        simpa [same, different] using ih
    · by_cases found : k = other
      · have different : other ≠ key := fun equal => here (found.trans equal)
        simp [found, different]
      · simpa [here, found] using ih

/-- Removing changes the lookup of its own key only. -/
theorem find?_erase (table : Table α) (key other : String) :
    (table.erase key).find? other = if other = key then none else table.find? other :=
  find_kept key other table.entries

end Table
end PageSession
