import Mathlib.Data.List.Nodup
import Mathlib.Data.List.Perm.Subperm
import PageSession.Table

/-!
Further laws of tables: lookups and entries say the same, what filtering does to lookups, and the
exchange of neighbours, which keeps all lookups and leads to every order of the entries. Sorted by
their distinct names, items are in strictly increasing order.
-/
namespace PageSession.Table

universe u
variable {α : Type u}

/-- A table is known by its entries. -/
theorem eq_of_entries {left right : Table α} (same : left.entries = right.entries) :
    left = right := by
  obtain ⟨entries, distinct⟩ := left
  cases same
  rfl

private theorem find_of_mem {entries : List (String × α)} {key : String} {value : α}
    (distinct : (entries.map Prod.fst).Nodup) (member : (key, value) ∈ entries) :
    (entries.find? fun entry => entry.1 == key).map Prod.snd = some value := by
  induction entries with
  | nil => cases member
  | cons head tail ih =>
    obtain ⟨k, v⟩ := head
    rw [List.map_cons, List.nodup_cons] at distinct
    rcases List.mem_cons.mp member with here | later
    · cases here
      simp
    · have listed : key ∈ tail.map Prod.fst := List.mem_map_of_mem later
      have different : k ≠ key := fun equal => distinct.1 (equal ▸ listed)
      rw [List.find?_cons_of_neg (by simpa using different)]
      exact ih distinct.2 later

/-- A lookup finds exactly the entries. -/
theorem find?_eq_some_iff (table : Table α) (key : String) (value : α) :
    table.find? key = some value ↔ (key, value) ∈ table.entries := by
  constructor
  · intro found
    obtain ⟨⟨k, v⟩, first, rfl⟩ := Option.map_eq_some_iff.mp found
    have same : k = key := by simpa using List.find?_some first
    exact same ▸ List.mem_of_find?_eq_some first
  · exact find_of_mem table.distinct

theorem nodup_keys (table : Table α) : table.keys.Nodup := table.distinct

theorem contains_iff_mem_keys (table : Table α) (key : String) :
    table.contains key = true ↔ key ∈ table.keys := by
  simp [contains, keys]

theorem contains_of_find? {table : Table α} {key : String} {value : α}
    (found : table.find? key = some value) : table.contains key = true := by
  rw [contains_eq_isSome, found]
  rfl

theorem contains_eq_false_iff (table : Table α) (key : String) :
    table.contains key = false ↔ table.find? key = none := by
  rw [contains_eq_isSome]
  simp

/-- Filtering keeps a lookup exactly when its entry passes the test. -/
theorem find?_filter (table : Table α) (keep : String × α → Bool) (key : String) :
    (table.filter keep).find? key = (table.find? key).filter fun value => keep (key, value) := by
  apply Option.ext
  intro value
  rw [find?_eq_some_iff, Option.filter_eq_some_iff, find?_eq_some_iff]
  exact List.mem_filter

/-- What passes a test depends on the test for the entries only. -/
theorem filter_congr {table : Table α} {keep other : String × α → Bool}
    (same : ∀ key value, table.find? key = some value → keep (key, value) = other (key, value)) :
    table.filter keep = table.filter other := by
  apply eq_of_entries
  refine List.filter_congr fun ⟨key, value⟩ listed => ?_
  exact same key value ((find?_eq_some_iff table key value).mpr listed)

theorem filter_eq_self {table : Table α} {keep : String × α → Bool}
    (all : ∀ key value, table.find? key = some value → keep (key, value) = true) :
    table.filter keep = table := by
  apply eq_of_entries
  refine List.filter_eq_self.mpr fun ⟨key, value⟩ listed => ?_
  exact all key value ((find?_eq_some_iff table key value).mpr listed)

theorem filter_filter (table : Table α) (first second : String × α → Bool) :
    (table.filter first).filter second = table.filter fun entry => first entry && second entry := by
  apply eq_of_entries
  exact (List.filter_filter ..).trans (List.filter_congr fun entry _ => Bool.and_comm ..)

/-- What is found after an entry was removed was there before. -/
theorem find?_of_erase {table : Table α} {key other : String} {value : α}
    (found : (table.erase key).find? other = some value) : table.find? other = some value := by
  rw [find?_erase] at found
  split at found
  · cases found
  · exact found

/-- What is filed under an absent key comes last, and everything else stays. -/
theorem entries_insert (table : Table α) (key : String) (value : α)
    (absent : table.find? key = none) :
    (table.insert key value).entries = table.entries ++ [(key, value)] := by
  have unlisted : key ∉ table.entries.map Prod.fst := by
    have missing := (contains_eq_false_iff table key).mpr absent
    exact fun listed => by simp [(contains_iff_mem_keys table key).mpr listed] at missing
  show put key value table.entries = _
  generalize table.entries = entries at unlisted
  induction entries with
  | nil => rfl
  | cons head tail ih =>
    obtain ⟨k, v⟩ := head
    rw [List.map_cons, List.mem_cons, not_or] at unlisted
    rw [put, if_neg fun same => unlisted.1 same.symm, ih unlisted.2]
    rfl

/-- To file under an absent key and to remove that again changes nothing. -/
theorem erase_insert (table : Table α) (key : String) (value : α)
    (absent : table.find? key = none) : (table.insert key value).erase key = table := by
  apply eq_of_entries
  show (table.insert key value).entries.filter _ = _
  rw [entries_insert table key value absent, List.filter_append]
  have kept : ∀ entry ∈ table.entries, (entry.1 != key) = true := by
    rintro ⟨other, v⟩ listed
    have found := (find?_eq_some_iff table other v).mpr listed
    have different : other ≠ key := by
      rintro rfl
      cases absent.symm.trans found
    simpa using different
  rw [List.filter_eq_self.mpr kept]
  simp

/-- How many entries pass a test, when some were lost and some gained among them. -/
theorem countP_add_le {before after : Table α} {test : String × α → Bool}
    {lost gained : List (String × α)} (distinct : lost.Nodup)
    (gone : ∀ entry ∈ lost, test entry = true ∧ before.find? entry.1 = some entry.2 ∧
      after.find? entry.1 ≠ some entry.2)
    (kept : ∀ key value, after.find? key = some value → test (key, value) = true →
      before.find? key = some value ∨ (key, value) ∈ gained) :
    lost.length + after.entries.countP test ≤ gained.length + before.entries.countP test := by
  have unique : (lost ++ after.entries.filter test).Nodup := by
    refine List.nodup_append.mpr ⟨distinct, (List.Nodup.of_map _ after.distinct).filter test, ?_⟩
    rintro ⟨key, value⟩ missing entry listed rfl
    exact (gone _ missing).2.2
      ((find?_eq_some_iff after key value).mpr (List.mem_of_mem_filter listed))
  have found : lost ++ after.entries.filter test ⊆ gained ++ before.entries.filter test := by
    rintro ⟨key, value⟩ member
    rw [List.mem_append, List.mem_filter, ← find?_eq_some_iff]
    rcases List.mem_append.mp member with missing | listed
    · exact .inr ⟨(gone _ missing).2.1, (gone _ missing).1⟩
    · rw [List.mem_filter, ← find?_eq_some_iff] at listed
      exact (kept key value listed.1 listed.2).symm.imp_right fun there => ⟨there, listed.2⟩
  have length := (List.subperm_of_subset unique found).length_le
  simpa only [List.length_append, ← List.countP_eq_length_filter] using length

/-! ## Exchanging neighbours -/

/-- The list with the item at a place and the one behind it exchanged, if there are both. -/
def swapAt {β : Type u} : Nat → List β → List β
  | 0, first :: second :: rest => second :: first :: rest
  | place + 1, first :: rest => first :: swapAt place rest
  | _, items => items

theorem swapAt_perm {β : Type u} (place : Nat) (items : List β) :
    (swapAt place items).Perm items := by
  induction items generalizing place with
  | nil => cases place <;> exact .refl _
  | cons first rest ih =>
    cases place with
    | succ place => exact (ih place).cons first
    | zero =>
      cases rest with
      | nil => exact .refl _
      | cons second rest => exact .swap first second rest

/-- Exchanges one place further back leave the first item where it is. -/
theorem foldl_swapAt_succ {β : Type u} (places : List Nat) (first : β) (items : List β) :
    (places.map (· + 1)).foldl (fun items place => swapAt place items) (first :: items) =
      first :: places.foldl (fun items place => swapAt place items) items := by
  induction places generalizing items with
  | nil => rfl
  | cons place places ih => exact ih (swapAt place items)

/-- Every order of a list is reached by exchanging neighbours. -/
theorem exists_swaps {β : Type u} {items others : List β} (perm : items.Perm others) :
    ∃ places : List Nat, places.foldl (fun items place => swapAt place items) items = others := by
  induction perm with
  | nil => exact ⟨[], rfl⟩
  | swap first second rest => exact ⟨[0], rfl⟩
  | trans _ _ left right =>
    obtain ⟨earlier, rfl⟩ := left
    obtain ⟨later, rfl⟩ := right
    exact ⟨earlier ++ later, List.foldl_append⟩
  | @cons first items others _ ih =>
    obtain ⟨places, rfl⟩ := ih
    exact ⟨places.map (· + 1), foldl_swapAt_succ places first items⟩

/-- The table with the entry at a place and the one behind it exchanged. -/
def exchange (table : Table α) (place : Nat) : Table α :=
  { entries := swapAt place table.entries
    distinct := ((swapAt_perm place table.entries).map Prod.fst).nodup_iff.mpr table.distinct }

@[simp] theorem find?_exchange (table : Table α) (place : Nat) (key : String) :
    (table.exchange place).find? key = table.find? key := by
  apply Option.ext
  intro value
  rw [find?_eq_some_iff, find?_eq_some_iff]
  exact (swapAt_perm place table.entries).mem_iff

/-! ## Sorting by names -/

/-- Items with distinct names that are sorted by them come in strictly increasing order. -/
theorem pairwise_mergeSort {β : Type u} (name : β → String) {items : List β}
    (distinct : (items.map name).Nodup) :
    (items.mergeSort fun a b => !(name b < name a)).Pairwise fun a b => name a < name b := by
  have ordered : (items.mergeSort fun a b => !(name b < name a)).Pairwise
      fun a b => (!decide (name b < name a)) = true := by
    apply List.pairwise_mergeSort
    · intro a b c first second
      simp only [Bool.not_eq_true', decide_eq_false_iff_not, String.not_lt] at first second ⊢
      exact String.le_trans first second
    · intro a b
      simp only [Bool.or_eq_true, Bool.not_eq_true', decide_eq_false_iff_not, String.not_lt]
      exact String.le_total (name a) (name b)
  have apart : ((items.mergeSort fun a b => !(name b < name a)).map name).Nodup :=
    ((List.mergeSort_perm items _).map name).nodup_iff.mpr distinct
  apply ordered.imp₂ _ (List.pairwise_map.mp apart)
  intro a b early different
  simp only [Bool.not_eq_true', decide_eq_false_iff_not, String.not_lt] at early
  apply String.not_le.mp
  intro late
  exact different (String.le_antisymm early late)

end PageSession.Table
