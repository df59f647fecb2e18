import PageSession.Proofs.Message.Texts

/-!
Payloads as values. A request becomes the payload of a frame by putting its members, and those of
everything in it, in order by name. The payload is read back member by member without going through
a text, so whatever the data and the arguments are, and under whatever further members stand beside
those of the request. From its text it is read back exactly as far down as a reader goes.
-/
namespace PageSession.Json

mutual

def Value.isOrdered : Value → Bool
  | .array items => Value.itemsAreOrdered items
  | .object members => decide (Members.Increase members) && Value.membersAreOrdered members
  | _ => true

def Value.itemsAreOrdered : List Value → Bool
  | [] => true
  | first :: rest => first.isOrdered && Value.itemsAreOrdered rest

def Value.membersAreOrdered : List (String × Value) → Bool
  | [] => true
  | (_, value) :: rest => value.isOrdered && Value.membersAreOrdered rest

end

mutual

/-- What is in order stays as it is when it is put in order. -/
theorem Value.sorted_of_isOrdered (v : Value) (ordered : v.isOrdered = true) : v.sorted = v := by
  match v with
  | .null | .bool b | .number n | .text s => rfl
  | .array items => rw [Value.sorted, Value.sortedItems_of_ordered items ordered]
  | .object members =>
    rw [Value.isOrdered, Bool.and_eq_true, decide_eq_true_eq] at ordered
    rw [Value.sorted, Value.sortedMembers_of_ordered members ordered.2 [] ordered.1]
    rfl

theorem Value.sortedItems_of_ordered (items : List Value)
    (ordered : Value.itemsAreOrdered items = true) : Value.sortedItems items = items := by
  match items with
  | [] => rfl
  | first :: rest =>
    rw [Value.itemsAreOrdered, Bool.and_eq_true] at ordered
    rw [Value.sortedItems, Value.sorted_of_isOrdered first ordered.1,
      Value.sortedItems_of_ordered rest ordered.2]

theorem Value.sortedMembers_of_ordered (members : List (String × Value))
    (ordered : Value.membersAreOrdered members = true) (done : Members)
    (increase : Members.Increase (done ++ members)) :
    Value.sortedMembers members done = done ++ members := by
  match members with
  | [] => simp [Value.sortedMembers]
  | (name, value) :: rest =>
    rw [Value.membersAreOrdered, Bool.and_eq_true] at ordered
    have set : Members.set name value done = done ++ [(name, value)] :=
      Members.set_of_increase fun member inside =>
        (List.pairwise_append.mp increase).2.2 member inside (name, value) (by simp)
    have next := Value.sortedMembers_of_ordered rest ordered.2 (done ++ [(name, value)])
      (by simpa [Members.Increase] using increase)
    rw [Value.sortedMembers, Value.sorted_of_isOrdered value ordered.1, set, next]
    simp

end

namespace Members
variable {name first : String} {value old : Value} {rest : Members}

theorem set_nil : Members.set name value [] = [(name, value)] := rfl

theorem set_before (before : name < first) :
    Members.set name value ((first, old) :: rest) = (name, value) :: (first, old) :: rest := by
  rw [Members.set, if_pos before]

theorem set_behind (behind : first < name) :
    Members.set name value ((first, old) :: rest) = (first, old) :: rest.set name value := by
  have other : name ≠ first := fun same => String.lt_irrefl name (same ▸ behind)
  rw [Members.set, if_neg (String.lt_asymm behind), if_neg other]

end Members

/-! ## Records among values -/

/-- The values of the fields in order: the members of an object by their names, or the items of an
array that is no longer than the record. -/
def Value.slots? (names : List String) : Value → Option (List (Option Value))
  | .object members => some (names.map (Members.get? members))
  | .array items =>
    if items.length ≤ names.length then
      some (items.map some ++ List.replicate (names.length - items.length) none)
    else none
  | _ => none

def Value.text? : Value → Option String
  | .text s => some s
  | _ => none

def Value.bool? : Value → Option Bool
  | .bool b => some b
  | _ => none

def Value.object? : Value → Option Members
  | .object members => some members
  | _ => none

end PageSession.Json

namespace PageSession.Message
open Json

def Caller.ofValue? (value : Value) : Option Caller := do
  match ← value.slots? ["identity", "token", "group"] with
  | [identity, token, group] =>
    let identity ← identity.bind Value.text?
    let token ← token.bind Value.text?
    let group ← group.bind Value.text?
    pure { identity, token, group }
  | _ => none

def ReplyTo.ofValue? (value : Value) : Option ReplyTo := do
  match ← value.slots? ["id", "args", "silent"] with
  | [id, args, silent] =>
    let id ← id.bind Value.text?
    let silent ← (silent.getD (.bool false)).bool?
    pure { id, args := present args, silent }
  | _ => none

def Request.ofValue? (value : Value) : Option Request := do
  match ← value.slots? ["auth", "handler", "data", "callback"] with
  | [auth, handler, data, callback] =>
    let auth ← auth.bind Caller.ofValue?
    let handler ← handler.bind Value.text?
    let data ← (present data).elim (some none) fun data => data.object?.map some
    let callback ← callback.bind ReplyTo.ofValue?
    pure { auth, handler, data, callback }
  | _ => none

/-! ## Payloads of requests -/

/-- The data and the arguments list the members of every object by increasing name. -/
def Request.isOrdered (request : Request) : Bool :=
  (request.data.map Value.object).all Value.isOrdered && request.callback.args.all Value.isOrdered

theorem Caller.sorted_toValue (caller : Caller) :
    caller.toValue.sorted = .object [("group", .text caller.group),
      ("identity", .text caller.identity), ("token", .text caller.token)] := by
  simp (disch := decide) only [toValue, Value.sorted, Value.sortedMembers, Members.set_nil,
    Members.set_before, Members.set_behind]

theorem ReplyTo.sorted_toValue {replyTo : ReplyTo}
    (ordered : replyTo.args.all Value.isOrdered = true) :
    replyTo.toValue.sorted = .object (optionalMember "args" replyTo.args ++
      ("id", .text replyTo.id) :: flagMember "silent" replyTo.silent) := by
  obtain ⟨id, args, silent⟩ := replyTo
  cases args with
  | none =>
    cases silent
    · rfl
    · simp (disch := decide) [toValue, optionalMember, flagMember, Value.sorted,
        Value.sortedMembers, Members.set_nil, Members.set_behind]
  | some args =>
    have same := args.sorted_of_isOrdered ordered
    cases silent <;> simp (disch := decide) [toValue, optionalMember, flagMember, Value.sorted,
      Value.sortedMembers, Members.set_nil, Members.set_before, Members.set_behind, same]

namespace Request
variable {request : Request}

def orderedMembers (request : Request) : Members :=
  ("auth", request.auth.toValue.sorted) :: ("callback", request.callback.toValue.sorted) ::
    (optionalMember "data" (request.data.map .object) ++ [("handler", .text request.handler)])

theorem sorted_toValue (ordered : request.isOrdered = true) :
    request.toValue.sorted = .object request.orderedMembers := by
  rw [isOrdered, Bool.and_eq_true] at ordered
  obtain ⟨auth, handler, data, callback⟩ := request
  cases data with
  | none =>
    simp (disch := decide) [toValue, orderedMembers, optionalMember, Value.sorted,
      Value.sortedMembers, Members.set_nil, Members.set_before, Members.set_behind]
  | some data =>
    have same := (Value.object data).sorted_of_isOrdered ordered.1
    rw [Value.sorted] at same
    simp (disch := decide) [toValue, orderedMembers, optionalMember, Value.sorted,
      Value.sortedMembers, Members.set_nil, Members.set_before, Members.set_behind, same]

/-- Making the payload never fails: a request is an object. -/
theorem sorted_eq_payload (request : Request) :
    request.toValue.sorted = .object request.payload := by
  rw [payload]
  cases made : request.toValue.sorted with
  | object members => rfl
  | null | bool | number | text | array => simp [toValue, Value.sorted] at made

theorem payload_eq (ordered : request.isOrdered = true) :
    request.payload = request.orderedMembers := by
  have made := sorted_eq_payload request
  rw [sorted_toValue ordered] at made
  exact (Value.object.inj made).symm

/-- A payload is given its room behind all other members. -/
theorem setDefault_payload (ordered : request.isOrdered = true) (room : Value) :
    request.payload.setDefault "room" room = request.orderedMembers ++ [("room", room)] := by
  rw [payload_eq ordered]
  cases data : request.data <;>
    simp (disch := decide) [orderedMembers, data, optionalMember, Members.setDefault, Members.get?,
      Members.set_nil, Members.set_behind]

/-- The request is read back from its members, whatever stands behind them. -/
theorem ofValue?_payload (ordered : request.isOrdered = true) (room : Value) :
    ofValue? (.object (request.payload.setDefault "room" room)) = some request.arrived := by
  rw [setDefault_payload ordered]
  rw [isOrdered, Bool.and_eq_true] at ordered
  have auth : Caller.ofValue? request.auth.toValue.sorted = some request.auth := by
    rw [Caller.sorted_toValue]
    rfl
  have callback : ReplyTo.ofValue? request.callback.toValue.sorted =
      some request.callback.arrived := by
    rw [ReplyTo.sorted_toValue ordered.2]
    obtain ⟨-, -, -, id, args, silent⟩ := request
    cases args <;> cases silent <;> rfl
  cases data : request.data with
  | none =>
    simp [ofValue?, Value.slots?, Members.get?, orderedMembers, data, optionalMember, auth,
      callback, present, Value.text?, arrived]
  | some members =>
    have kept : present (some (Value.object members)) = some (.object members) := rfl
    simp [ofValue?, Value.slots?, Members.get?, orderedMembers, data, optionalMember, auth,
      callback, kept, Value.text?, Value.object?, arrived]

end Request

/-! ## Texts of payloads -/

def Caller.sortedFields (caller : Caller) : List (String × Option Value) :=
  [("group", some (.text caller.group)), ("identity", some (.text caller.identity)),
    ("token", some (.text caller.token))]

def ReplyTo.sortedFields (replyTo : ReplyTo) : List (String × Option Value) :=
  [("args", replyTo.args), ("id", some (.text replyTo.id)),
    ("silent", if replyTo.silent then some (.bool true) else none)]

def Request.sortedFields (request : Request) (room : String) : List (String × Option Value) :=
  [("auth", some (.object (membersOf request.auth.sortedFields))),
    ("callback", some (.object (membersOf request.callback.sortedFields))),
    ("data", request.data.map .object), ("handler", some (.text request.handler)),
    ("room", some (.text room))]

theorem Caller.read_sorted (caller : Caller) (depth : Nat) :
    Caller.read (depth + 1) (Value.object (membersOf caller.sortedFields)).datum = some caller := by
  have distinct : (caller.sortedFields.map Prod.fst).Nodup := by simp [sortedFields]
  have known : ∀ field ∈ caller.fields, field ∈ caller.sortedFields := by
    simp [fields, sortedFields]
  exact record_among distinct known _ depth

theorem ReplyTo.read_sorted (replyTo : ReplyTo) (depth : Nat) :
    ReplyTo.read (depth + 1) (Value.object (membersOf replyTo.sortedFields)).datum =
      (Reader.value.optional depth (replyTo.args.map Value.datum)).map fun args =>
        { replyTo with args } := by
  have distinct : (replyTo.sortedFields.map Prod.fst).Nodup := by simp [sortedFields]
  have known : ∀ field ∈ replyTo.fields, field ∈ replyTo.sortedFields := by
    simp [fields, sortedFields]
  refine (record_among distinct known _ depth).trans ?_
  simp only [fields, List.map_cons, List.map_nil, orDefault_flag]
  cases Reader.value.optional depth (replyTo.args.map Value.datum) <;> rfl

/-- An optional value that is nested too deep spoils its record. -/
theorem optional_value_deep {value : Value} {depth : Nat} (deep : depth < value.nesting) :
    Reader.value.optional depth (some value.datum) = none := by
  cases value with
  | null | bool | number | text => simp [Value.nesting] at deep
  | array items =>
    show ((Value.array items).datum.value? depth).map some = none
    rw [Value.value?_datum_deep _ depth deep]
    rfl
  | object members =>
    show ((Value.object members).datum.value? depth).map some = none
    rw [Value.value?_datum_deep _ depth deep]
    rfl

theorem optional_members_deep {members : Members} {depth : Nat}
    (deep : depth < (Value.object members).nesting) :
    Reader.members.optional depth (some (Value.object members).datum) = none := by
  have unread := Value.value?_datum_deep _ depth deep
  show (Reader.members depth (Value.object members).datum).map some = none
  rw [Value.datum] at unread ⊢
  rw [Reader.members, unread]
  rfl

namespace Request
variable {request : Request}

theorem membersOf_sortedFields (ordered : request.isOrdered = true) (room : String) :
    request.payload.setDefault "room" (.text room) = membersOf (request.sortedFields room) := by
  rw [setDefault_payload ordered]
  rw [isOrdered, Bool.and_eq_true] at ordered
  rw [orderedMembers, Caller.sorted_toValue, ReplyTo.sorted_toValue ordered.2]
  simp only [sortedFields, Caller.sortedFields, ReplyTo.sortedFields, membersOf_cons, membersOf_nil,
    optionalMember_eq, flagMember_eq, Option.map_some, Option.toList_some, List.append_nil,
    List.cons_append, List.nil_append, List.append_assoc]

/-- Only the data and the arguments can be nested too deep. -/
theorem read_sorted (request : Request) (room : String) (depth : Nat) :
    read (depth + 2) (Value.object (membersOf (request.sortedFields room))).datum =
      (Reader.members.optional (depth + 1) ((request.data.map Value.object).map Value.datum)).bind
        fun data => (Reader.value.optional depth (request.callback.args.map Value.datum)).map
          fun args => { request with data, callback := { request.callback with args } } := by
  have distinct : ((request.sortedFields room).map Prod.fst).Nodup := by simp [sortedFields]
  have front : ["auth", "handler", "data", "callback"] =
      [("auth", some (Value.object (membersOf request.auth.sortedFields))),
        ("handler", some (.text request.handler)), ("data", request.data.map .object),
        ("callback", some (.object (membersOf request.callback.sortedFields)))].map Prod.fst := rfl
  rw [read, front]
  refine (record_among distinct (by simp [sortedFields]) _ (depth + 1)).trans ?_
  simp only [List.map_cons, List.map_nil, Reader.required, Option.map_some, Option.bind_some,
    Caller.read_sorted, ReplyTo.read_sorted]
  cases Reader.members.optional (depth + 1) ((request.data.map Value.object).map Value.datum) with
  | none => rfl
  | some data =>
    cases Reader.value.optional depth (request.callback.args.map Value.datum) <;> rfl

theorem exact_sortedFields (plain : request.isPlain = true) (room : String) :
    Value.membersAreExact (membersOf (request.sortedFields room)) = true := by
  rw [isPlain, Bool.and_eq_true] at plain
  have callback : Value.membersAreExact (membersOf request.callback.sortedFields) = true := by
    rw [membersAreExact_membersOf]
    cases silent : request.callback.silent <;>
      simp [ReplyTo.sortedFields, silent, all_isExact plain.2, Value.isExact]
  have auth : Value.membersAreExact (membersOf request.auth.sortedFields) = true := by
    simp [membersAreExact_membersOf, Caller.sortedFields, Value.isExact]
  rw [membersAreExact_membersOf]
  simp [sortedFields, all_isExact plain.1, auth, callback, Value.isExact]

/-- A field of a payload that is nested so deep holds the data or the arguments. -/
theorem deep_field {room name : String} {value : Value} {depth : Nat}
    (inside : (name, some value) ∈ request.sortedFields room)
    (deep : depth + 2 ≤ value.nesting) :
    (∃ data, request.data = some data ∧ depth + 1 < (Value.object data).nesting) ∨
      ∃ args, request.callback.args = some args ∧ depth < args.nesting := by
  simp only [sortedFields, List.mem_cons, Prod.mk.injEq, Option.some.injEq, List.not_mem_nil,
    or_false] at inside
  rcases inside with ⟨-, rfl⟩ | ⟨-, rfl⟩ | ⟨-, data⟩ | ⟨-, rfl⟩ | ⟨-, rfl⟩
  · simp [Caller.sortedFields, membersOf, Value.nesting, Value.memberNesting] at deep
  · rw [Value.nesting] at deep
    obtain ⟨name, value, inside, below⟩ := exists_deep_field
      (show depth < Value.memberNesting (membersOf request.callback.sortedFields) by omega)
    simp only [ReplyTo.sortedFields, List.mem_cons, Prod.mk.injEq, Option.some.injEq,
      List.not_mem_nil, or_false] at inside
    rcases inside with ⟨-, args⟩ | ⟨-, rfl⟩ | ⟨-, silent⟩
    · exact .inr ⟨value, args.symm, below⟩
    · simp [Value.nesting] at below
    · split at silent
      · cases silent
        simp [Value.nesting] at below
      · cases silent
  · obtain ⟨members, given, rfl⟩ := Option.map_eq_some_iff.mp data.symm
    exact .inl ⟨members, given, deep⟩
  · simp [Value.nesting] at deep
  · simp [Value.nesting] at deep

/-- A payload that names its room is read back from its text, as far down as a reader goes. -/
theorem read_payload (ordered : request.isOrdered = true) (plain : request.isPlain = true)
    (room : String) :
    read.ofString? (Value.object (request.payload.setDefault "room" (.text room))).write =
      if (Value.object (request.payload.setDefault "room" (.text room))).nesting < 128 then
        some request.arrived
      else none := by
  rw [membersOf_sortedFields ordered, Reader.ofString?_write _ (exact_sortedFields plain room),
    show nestingLimit = 125 + 2 from rfl, read_sorted]
  rw [isPlain, Bool.and_eq_true] at plain
  split
  · rename_i nests
    rw [Value.nesting] at nests
    have within : ∀ name value, (name, some value) ∈ request.sortedFields room →
        value.nesting ≤ 126 := fun _ _ inside => (nesting_le_of_mem inside).trans (by omega)
    have callback := within "callback" (.object (membersOf request.callback.sortedFields))
      (by simp [sortedFields])
    rw [Value.nesting] at callback
    have below : ∀ v, request.callback.args = some v → v.nesting ≤ 125 := by
      intro v same
      have inside : ("args", some v) ∈ request.callback.sortedFields := by
        simp [ReplyTo.sortedFields, same]
      exact (nesting_le_of_mem inside).trans (by omega)
    have data : Reader.members.optional 126 ((request.data.map Value.object).map Value.datum) =
        some request.data :=
      optional_members plain.1 fun m same =>
        within "data" (.object m) (by simp [sortedFields, same])
    have args : Reader.value.optional 125 (request.callback.args.map Value.datum) =
        some (present request.callback.args) :=
      optional_value plain.2 below
    rw [data, args]
    rfl
  · rename_i deep
    rw [Value.nesting] at deep
    obtain ⟨name, value, inside, below⟩ := exists_deep_field
      (show 126 < Value.memberNesting (membersOf (request.sortedFields room)) by omega)
    rcases deep_field inside below with ⟨data, same, below⟩ | ⟨args, same, below⟩
    · rw [same, Option.map_some, Option.map_some, optional_members_deep below]
      rfl
    · rw [same, Option.map_some, optional_value_deep below]
      cases Reader.members.optional 126 ((request.data.map Value.object).map Value.datum) <;> rfl

end Request

end PageSession.Message
