import PageSession.Proofs.Json.Values

/-!
Records written and read back. A record is written as an object of the fields that have a value, in
their order, and its reader finds in the slot of each field what was written there. What a field
that may be missing loses on the way is a null: it reads as absent.
-/
namespace PageSession.Json

/-! ## Fields -/

def membersOf (fields : List (String × Option Value)) : List (String × Value) :=
  fields.filterMap fun field => field.2.map fun value => (field.1, value)

@[simp] theorem membersOf_nil : membersOf [] = [] := rfl

theorem membersOf_cons (name : String) (value : Option Value)
    (fields : List (String × Option Value)) :
    membersOf ((name, value) :: fields) =
      (value.map fun value => (name, value)).toList ++ membersOf fields := by
  cases value <;> rfl

/-- What stands in a field is nested no deeper than the members. -/
theorem nesting_le_of_mem {fields : List (String × Option Value)} {name : String} {value : Value}
    (inside : (name, some value) ∈ fields) :
    value.nesting ≤ Value.memberNesting (membersOf fields) := by
  induction fields with
  | nil => simp at inside
  | cons field fields ih =>
    obtain ⟨other, content⟩ := field
    rw [membersOf_cons]
    rcases List.mem_cons.mp inside with same | inside
    · cases same
      exact Nat.le_max_left ..
    · have bound := ih inside
      cases content with
      | none => exact bound
      | some content => exact bound.trans (Nat.le_max_right ..)

/-- Where members are nested deeper than allowed, some field is. -/
theorem exists_deep_field {fields : List (String × Option Value)} {depth : Nat}
    (deep : depth < Value.memberNesting (membersOf fields)) :
    ∃ name value, (name, some value) ∈ fields ∧ depth < value.nesting := by
  induction fields with
  | nil => simp [Value.memberNesting] at deep
  | cons field fields ih =>
    obtain ⟨name, content⟩ := field
    rw [membersOf_cons] at deep
    have later : depth < Value.memberNesting (membersOf fields) →
        ∃ name' value, (name', some value) ∈ (name, content) :: fields ∧
          depth < value.nesting := fun deep => by
      obtain ⟨name', value, inside, below⟩ := ih deep
      exact ⟨name', value, List.mem_cons_of_mem _ inside, below⟩
    cases content with
    | none => exact later deep
    | some content =>
      have below : depth < max content.nesting (Value.memberNesting (membersOf fields)) := deep
      by_cases here : depth < content.nesting
      · exact ⟨name, content, List.mem_cons_self, here⟩
      · exact later (by omega)

theorem membersAreExact_membersOf (fields : List (String × Option Value)) :
    Value.membersAreExact (membersOf fields) =
      fields.all fun field => field.2.all Value.isExact := by
  induction fields with
  | nil => rfl
  | cons field fields ih =>
    obtain ⟨name, value⟩ := field
    rw [membersOf_cons, List.all_cons, ← ih]
    cases value with
    | none => simp
    | some value => simp [Value.membersAreExact]

/-- The members of one name: the field of this name, if it has a value. -/
theorem filter_memberData {fields : List (String × Option Value)}
    (distinct : (fields.map Prod.fst).Nodup) {name : String} {value : Option Value}
    (inside : (name, value) ∈ fields) :
    ((Value.memberData (membersOf fields)).filter fun member => member.1 == some name) =
      (value.map fun value => (some name, value.datum)).toList := by
  have absent : ∀ fields : List (String × Option Value), name ∉ fields.map Prod.fst →
      ((Value.memberData (membersOf fields)).filter fun member => member.1 == some name) = [] := by
    intro fields missing
    induction fields with
    | nil => rfl
    | cons field fields ih =>
      obtain ⟨other, content⟩ := field
      simp only [List.map_cons, List.mem_cons, not_or] at missing
      have others := ih missing.2
      have different : other ≠ name := fun same => missing.1 same.symm
      rw [membersOf_cons]
      cases content with
      | none => simpa using others
      | some content => simpa [Value.memberData, different] using others
  induction fields with
  | nil => simp at inside
  | cons field fields ih =>
    obtain ⟨other, content⟩ := field
    rw [List.map_cons, List.nodup_cons] at distinct
    rw [membersOf_cons]
    rcases List.mem_cons.mp inside with same | inside
    · cases same
      have others := absent fields distinct.1
      cases value with
      | none => simpa using others
      | some value => simpa [Value.memberData] using others
    · have here := ih distinct.2 inside
      have named : name ∈ fields.map Prod.fst := List.mem_map.mpr ⟨_, inside, rfl⟩
      have different : other ≠ name := fun same => distinct.1 (same ▸ named)
      cases content with
      | none => simpa using here
      | some content => simpa [Value.memberData, different] using here

theorem names_memberData (members : List (String × Value)) :
    (Value.memberData members).all (fun member => member.1.isSome) = true := by
  induction members with
  | nil => rfl
  | cons member members ih => exact ih

/-- Some of the fields of a record are found as they were written. -/
theorem mapM_membersOf {fields front : List (String × Option Value)}
    (distinct : (fields.map Prod.fst).Nodup) (known : ∀ field ∈ front, field ∈ fields) :
    ((front.map Prod.fst).mapM fun name =>
      match (Value.memberData (membersOf fields)).filter fun member => member.1 == some name with
      | [] => some none
      | [(_, datum)] => some (some datum)
      | _ => none) = some (front.map fun field => field.2.map Value.datum) := by
  induction front with
  | nil => rfl
  | cons field front ih =>
    obtain ⟨name, value⟩ := field
    rw [List.forall_mem_cons] at known
    rw [List.map_cons, List.mapM_cons, ih known.2, filter_memberData distinct known.1]
    cases value <;> rfl

/-- The slots of a record hold what its fields were written as, wherever they stand. -/
theorem slots?_membersOf {fields front : List (String × Option Value)}
    (distinct : (fields.map Prod.fst).Nodup) (known : ∀ field ∈ front, field ∈ fields) :
    (Datum.object (Value.memberData (membersOf fields))).slots? (front.map Prod.fst) =
      some (front.map fun field => field.2.map Value.datum) := by
  rw [Datum.slots?, if_pos (names_memberData _)]
  exact mapM_membersOf distinct known

/-- A record is read from the slots of its fields, whatever else stands among them. -/
theorem record_among {α : Type} {fields front : List (String × Option Value)}
    (distinct : (fields.map Prod.fst).Nodup) (known : ∀ field ∈ front, field ∈ fields)
    (read : Nat → List (Option Datum) → Option α) (depth : Nat) :
    Reader.record (front.map Prod.fst) read (depth + 1) (Value.object (membersOf fields)).datum =
      read depth (front.map fun field => field.2.map Value.datum) := by
  rw [Value.datum, Reader.record, slots?_membersOf distinct known]
  rfl

theorem record_membersOf {α : Type} {fields : List (String × Option Value)}
    (distinct : (fields.map Prod.fst).Nodup) (read : Nat → List (Option Datum) → Option α)
    (depth : Nat) :
    Reader.record (fields.map Prod.fst) read (depth + 1) (Value.object (membersOf fields)).datum =
      read depth (fields.map fun field => field.2.map Value.datum) :=
  record_among distinct (fun _ inside => inside) read depth

/-! ## Contents of fields -/

def Value.isNull : Value → Bool
  | .null => true
  | _ => false

/-- A null is as good as nothing. -/
def present (value : Option Value) : Option Value := value.filter fun value => !value.isNull

/-- Whatever stands in a field that may be missing is read back, unless it is null. -/
theorem optional_datum {α : Type} {read : Reader α} {depth : Nat} {value : Value} {x : α}
    (found : read depth value.datum = some x) (other : value.isNull = false) :
    read.optional depth (some value.datum) = some (some x) := by
  cases value with
  | null => cases other
  | bool | number | text | array | object =>
    show (read depth _).map some = _
    rw [found]
    rfl

/-- A value in a field that may be missing. -/
theorem optional_value {value : Option Value} (plain : value.all Value.isPlain = true) {depth : Nat}
    (nests : ∀ v, value = some v → v.nesting ≤ depth) :
    Reader.value.optional depth (value.map Value.datum) = some (present value) := by
  cases value with
  | none => rfl
  | some v =>
    have read := Value.value?_datum v plain depth (nests v rfl)
    cases v with
    | null => rfl
    | _ => exact optional_datum read rfl

/-- An object in a field that may be missing. -/
theorem optional_members {members : Option Members}
    (plain : (members.map Value.object).all Value.isPlain = true) {depth : Nat}
    (nests : ∀ m, members = some m → (Value.object m).nesting ≤ depth) :
    Reader.members.optional depth ((members.map Value.object).map Value.datum) = some members := by
  cases members with
  | none => rfl
  | some m =>
    have read := Value.value?_datum (.object m) plain depth (nests m rfl)
    refine optional_datum ?_ rfl
    rw [Value.datum] at read ⊢
    rw [Reader.members, read]

/-- A text that was left out because it is empty. -/
theorem orDefault_text (depth : Nat) (s : String) :
    Reader.text.orDefault "" depth
      ((if s.isEmpty then none else some (Value.text s)).map Value.datum) = some s := by
  split
  · rename_i empty
    rw [String.isEmpty_iff.mp empty]
    rfl
  · rfl

/-- A flag that was left out because it is not set. -/
theorem orDefault_flag (depth : Nat) (flag : Bool) :
    Reader.bool.orDefault false depth
      ((if flag then some (Value.bool true) else none).map Value.datum) = some flag := by
  cases flag <;> rfl

/-! ## Texts of records -/

theorem Reader.ofString?_eq_ofBytes? {α : Type} (read : Reader α) (text : String) :
    read.ofString? text = read.ofBytes? text.toUTF8 := by
  rw [Reader.ofString?, Reader.ofBytes?, Text.glyphsOfBytes_toUTF8]

/-- The text of an object is read as its tree. -/
theorem Reader.ofString?_write {α : Type} (read : Reader α) {members : List (String × Value)}
    (numbers : Value.membersAreExact members = true) :
    read.ofString? (Value.object members).write =
      read nestingLimit (Value.object members).datum := by
  rw [Reader.ofString?_eq_ofBytes?, Reader.ofBytes?, ofGlyphs?_write_object numbers,
    Option.bind_some, Value.datum]

end PageSession.Json
