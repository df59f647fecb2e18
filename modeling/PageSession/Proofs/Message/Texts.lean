import PageSession.Message.Content
import PageSession.Proofs.Json.Records
import PageSession.Proofs.Message.Frames

/-!
Messages written and read back. A message loses nothing on its way through a text, whatever is in
its texts and its payload, except that arguments or data that are null arrive as absent. A content
travels as a text inside a frame and comes out of it the same.
-/
namespace PageSession.Message
open Json

/-! ## What arrives -/

def ReplyTo.arrived (replyTo : ReplyTo) : ReplyTo := { replyTo with args := present replyTo.args }

def Request.arrived (request : Request) : Request :=
  { request with callback := request.callback.arrived }

def Response.arrived (response : Response) : Response :=
  { response with data := present response.data }

def Push.arrived (push : Push) : Push := { push with data := present push.data }

/-- The arguments hold only exact numbers and list their members by increasing name. -/
def ReplyTo.isPlain (replyTo : ReplyTo) : Bool := replyTo.args.all Value.isPlain

def Request.isPlain (request : Request) : Bool :=
  (request.data.map Value.object).all Value.isPlain && request.callback.isPlain

def Response.isPlain (response : Response) : Bool := response.data.all Value.isPlain

def Push.isPlain (push : Push) : Bool := push.data.all Value.isPlain

/-! ## Fields -/

def Echo.fields (echo : Echo) : List (String × Option Value) :=
  [("id", some (.text echo.id)), ("silent", if echo.silent then some (.bool true) else none)]

def Response.fields (r : Response) : List (String × Option Value) :=
  [("message", if r.message.isEmpty then none else some (.text r.message)), ("data", r.data),
    ("callback", r.callback.map Echo.toValue), ("level", r.level.map fun level => .text level.name),
    ("error", r.error.map .text)]

def Push.fields (push : Push) : List (String × Option Value) :=
  [("kind", some (.text push.kind.name)),
    ("message", if push.message.isEmpty then none else some (.text push.message)),
    ("data", push.data)]

def Caller.fields (caller : Caller) : List (String × Option Value) :=
  [("identity", some (.text caller.identity)), ("token", some (.text caller.token)),
    ("group", some (.text caller.group))]

def ReplyTo.fields (replyTo : ReplyTo) : List (String × Option Value) :=
  [("id", some (.text replyTo.id)), ("args", replyTo.args),
    ("silent", if replyTo.silent then some (.bool true) else none)]

def Request.fields (request : Request) : List (String × Option Value) :=
  [("auth", some request.auth.toValue), ("handler", some (.text request.handler)),
    ("data", request.data.map .object), ("callback", some request.callback.toValue)]

def Incoming.fields (frame : Incoming) : List (String × Option Value) :=
  [("type", some (.text frame.kind.name)), ("code", some (.number (.integer frame.code))),
    ("content", some (.text frame.content))]

theorem optionalMember_eq (name : String) (value : Option Value) :
    optionalMember name value = (value.map fun value => (name, value)).toList := by
  cases value <;> rfl

theorem flagMember_eq (name : String) (flag : Bool) :
    flagMember name flag =
      ((if flag then some (Value.bool true) else none).map fun value => (name, value)).toList := by
  cases flag <;> rfl

theorem textMember_eq (name s : String) :
    textMember name s =
      ((if s.isEmpty then none else some (Value.text s)).map
        fun value => (name, value)).toList := by
  unfold textMember
  split <;> rfl

theorem Echo.toValue_eq (echo : Echo) : echo.toValue = .object (membersOf echo.fields) := by
  simp only [toValue, fields, membersOf_cons, flagMember_eq, membersOf_nil, List.append_nil]
  rfl

theorem Response.toValue_eq (r : Response) : r.toValue = .object (membersOf r.fields) := by
  simp only [toValue, fields, membersOf_cons, textMember_eq, optionalMember_eq, membersOf_nil,
    List.append_assoc, List.append_nil]

theorem Push.toValue_eq (push : Push) : push.toValue = .object (membersOf push.fields) := by
  simp only [toValue, fields, membersOf_cons, textMember_eq, optionalMember_eq, membersOf_nil,
    List.append_nil]
  rfl

theorem ReplyTo.toValue_eq (replyTo : ReplyTo) :
    replyTo.toValue = .object (membersOf replyTo.fields) := by
  simp only [toValue, fields, membersOf_cons, flagMember_eq, optionalMember_eq, membersOf_nil,
    List.append_nil]
  rfl

theorem Request.toValue_eq (request : Request) :
    request.toValue = .object (membersOf request.fields) := by
  simp only [toValue, fields, membersOf_cons, optionalMember_eq, membersOf_nil, List.append_nil]
  rfl

theorem Incoming.toValue_eq (frame : Incoming) : frame.toValue = .object (membersOf frame.fields) :=
  rfl

/-! ## Trees of messages -/

theorem Severity.ofName?_name (severity : Severity) : ofName? severity.name = some severity := by
  cases severity <;> rfl

theorem UpdateKind.ofName?_name (kind : UpdateKind) : ofName? kind.name = some kind := by
  cases kind <;> rfl

theorem IncomingKind.ofName?_name (kind : IncomingKind) : ofName? kind.name = some kind := by
  cases kind <;> rfl

/-- A status code is a whole number of 16 bits. -/
theorem isExact_code {code : Nat} (small : code < codeLimit) :
    (Number.integer code).isExact = true := by
  have limit : codeLimit = 65536 := rfl
  have wide : unsignedLimit = 18446744073709551616 := rfl
  simp only [Number.isExact, Bool.and_eq_true, decide_eq_true_eq]
  omega

theorem natBelow_code {code : Nat} (small : code < codeLimit) (depth : Nat) :
    Reader.natBelow codeLimit depth (Value.number (.integer code)).datum = some code := by
  rw [Value.datum, Reader.natBelow, number?_numeral (isExact_code small)]
  simp [small]

section
variable {depth : Nat}

theorem Echo.read_datum (echo : Echo) (nests : 0 < depth) :
    Echo.read depth echo.toValue.datum = some echo := by
  obtain ⟨depth, rfl⟩ := Nat.exists_eq_add_one.mpr nests
  have distinct : (echo.fields.map Prod.fst).Nodup := by simp [fields]
  rw [toValue_eq]
  refine (record_membersOf distinct _ depth).trans ?_
  simp only [fields, List.map_cons, List.map_nil, orDefault_flag]
  rfl

theorem Response.read_datum {r : Response} (plain : r.isPlain = true)
    (nests : r.toValue.nesting ≤ depth) : read depth r.toValue.datum = some r.arrived := by
  rw [toValue_eq, Value.nesting] at nests
  cases depth with
  | zero => omega
  | succ depth =>
    have inner : ∀ name value, (name, some value) ∈ r.fields → value.nesting ≤ depth :=
      fun _ _ inside => (nesting_le_of_mem inside).trans (by omega)
    have data : Reader.value.optional depth (r.data.map Value.datum) = some (present r.data) :=
      optional_value plain fun v same => inner "data" v (by simp [fields, same])
    have callback : Echo.read.optional depth ((r.callback.map Echo.toValue).map Value.datum) =
        some r.callback := by
      cases same : r.callback with
      | none => rfl
      | some echo =>
        have within := inner "callback" echo.toValue (by simp [fields, same])
        rw [Echo.toValue_eq, Value.nesting] at within
        exact optional_datum (echo.read_datum (by omega)) rfl
    have level : Severity.read.optional depth
        ((r.level.map fun level => Value.text level.name).map Value.datum) = some r.level := by
      cases r.level with
      | none => rfl
      | some level => exact optional_datum level.ofName?_name rfl
    have error : Reader.text.optional depth ((r.error.map Value.text).map Value.datum) =
        some r.error := by
      cases r.error <;> rfl
    have distinct : (r.fields.map Prod.fst).Nodup := by simp [fields]
    rw [toValue_eq]
    refine (record_membersOf distinct _ depth).trans ?_
    simp only [fields, List.map_cons, List.map_nil, orDefault_text, data, callback, level, error]
    rfl

theorem Push.read_datum {push : Push} (plain : push.isPlain = true)
    (nests : push.toValue.nesting ≤ depth) : read depth push.toValue.datum = some push.arrived := by
  rw [toValue_eq, Value.nesting] at nests
  cases depth with
  | zero => omega
  | succ depth =>
    have kind : UpdateKind.read.required depth
        ((some (Value.text push.kind.name)).map Value.datum) = some push.kind :=
      push.kind.ofName?_name
    have inner : ∀ name value, (name, some value) ∈ push.fields → value.nesting ≤ depth :=
      fun _ _ inside => (nesting_le_of_mem inside).trans (by omega)
    have data : Reader.value.optional depth (push.data.map Value.datum) =
        some (present push.data) :=
      optional_value plain fun v same => inner "data" v (by simp [fields, same])
    have distinct : (push.fields.map Prod.fst).Nodup := by simp [fields]
    rw [toValue_eq]
    refine (record_membersOf distinct _ depth).trans ?_
    simp only [fields, List.map_cons, List.map_nil, orDefault_text, kind, data]
    rfl

theorem Caller.read_datum (caller : Caller) (nests : 0 < depth) :
    Caller.read depth caller.toValue.datum = some caller := by
  obtain ⟨depth, rfl⟩ := Nat.exists_eq_add_one.mpr nests
  have distinct : (caller.fields.map Prod.fst).Nodup := by simp [fields]
  exact record_membersOf distinct _ depth

theorem ReplyTo.read_datum {replyTo : ReplyTo} (plain : replyTo.isPlain = true)
    (nests : replyTo.toValue.nesting ≤ depth) :
    read depth replyTo.toValue.datum = some replyTo.arrived := by
  rw [toValue_eq, Value.nesting] at nests
  cases depth with
  | zero => omega
  | succ depth =>
    have inner : ∀ name value, (name, some value) ∈ replyTo.fields → value.nesting ≤ depth :=
      fun _ _ inside => (nesting_le_of_mem inside).trans (by omega)
    have args : Reader.value.optional depth (replyTo.args.map Value.datum) =
        some (present replyTo.args) :=
      optional_value plain fun v same => inner "args" v (by simp [fields, same])
    have distinct : (replyTo.fields.map Prod.fst).Nodup := by simp [fields]
    rw [toValue_eq]
    refine (record_membersOf distinct _ depth).trans ?_
    simp only [fields, List.map_cons, List.map_nil, orDefault_flag, args]
    rfl

theorem Request.read_datum {request : Request} (plain : request.isPlain = true)
    (nests : request.toValue.nesting ≤ depth) :
    read depth request.toValue.datum = some request.arrived := by
  rw [isPlain, Bool.and_eq_true] at plain
  rw [toValue_eq, Value.nesting] at nests
  cases depth with
  | zero => omega
  | succ depth =>
    have inner : ∀ name value, (name, some value) ∈ request.fields → value.nesting ≤ depth :=
      fun _ _ inside => (nesting_le_of_mem inside).trans (by omega)
    have within := inner "auth" request.auth.toValue (by simp [fields])
    have callback := ReplyTo.read_datum plain.2
      (inner "callback" request.callback.toValue (by simp [fields]))
    have data : Reader.members.optional depth
        ((request.data.map Value.object).map Value.datum) = some request.data :=
      optional_members plain.1 fun m same => inner "data" (.object m) (by simp [fields, same])
    have auth : Caller.read depth request.auth.toValue.datum = some request.auth := by
      rw [Caller.toValue, Value.nesting] at within
      exact request.auth.read_datum (by omega)
    have distinct : (request.fields.map Prod.fst).Nodup := by simp [fields]
    rw [toValue_eq]
    refine (record_membersOf distinct _ depth).trans ?_
    simp only [fields, List.map_cons, List.map_nil, data, Reader.required, Option.map_some,
      Option.bind_some, auth, callback]
    rfl

theorem Incoming.read_datum {frame : Incoming} (small : frame.code < codeLimit)
    (nests : 0 < depth) : read depth frame.toValue.datum = some frame := by
  obtain ⟨depth, rfl⟩ := Nat.exists_eq_add_one.mpr nests
  have kind : IncomingKind.read.required depth
      ((some (Value.text frame.kind.name)).map Value.datum) = some frame.kind :=
    frame.kind.ofName?_name
  have code := natBelow_code small depth
  have distinct : (frame.fields.map Prod.fst).Nodup := by simp [fields]
  refine (record_membersOf distinct _ depth).trans ?_
  simp only [Reader.required, Option.map_some, Option.bind_some] at kind
  simp only [fields, List.map_cons, List.map_nil, Reader.required, Option.map_some,
    Option.bind_some, kind, code]
  rfl

end

/-! ## Texts of messages -/

theorem le_nestingLimit {depth : Nat} (nests : depth < 128) : depth ≤ nestingLimit := by
  rw [nestingLimit]
  omega

theorem all_isExact {value : Option Value} (plain : value.all Value.isPlain = true) :
    value.all Value.isExact = true := by
  cases value with
  | none => rfl
  | some value => exact value.isExact_of_isPlain plain

theorem Echo.exact_fields (echo : Echo) : Value.membersAreExact (membersOf echo.fields) = true := by
  rw [membersAreExact_membersOf]
  cases silent : echo.silent <;> simp [fields, silent, Value.isExact]

theorem Response.exact_fields {r : Response} (plain : r.isPlain = true) :
    Value.membersAreExact (membersOf r.fields) = true := by
  have callback : (r.callback.map Echo.toValue).all Value.isExact = true := by
    cases r.callback with
    | none => rfl
    | some echo => simp [Echo.toValue_eq, Value.isExact, echo.exact_fields]
  have level : (r.level.map fun level => Value.text level.name).all Value.isExact = true := by
    cases r.level <;> rfl
  have error : (r.error.map Value.text).all Value.isExact = true := by
    cases r.error <;> rfl
  rw [membersAreExact_membersOf]
  by_cases empty : r.message.isEmpty = true <;>
    simp [fields, empty, all_isExact plain, level, callback, error, Value.isExact]

theorem Push.exact_fields {push : Push} (plain : push.isPlain = true) :
    Value.membersAreExact (membersOf push.fields) = true := by
  rw [membersAreExact_membersOf]
  by_cases empty : push.message.isEmpty = true <;>
    simp [fields, empty, all_isExact plain, Value.isExact]

theorem ReplyTo.exact_fields {replyTo : ReplyTo} (plain : replyTo.isPlain = true) :
    Value.membersAreExact (membersOf replyTo.fields) = true := by
  rw [membersAreExact_membersOf]
  cases silent : replyTo.silent <;> simp [fields, silent, all_isExact plain, Value.isExact]

theorem Request.exact_fields {request : Request} (plain : request.isPlain = true) :
    Value.membersAreExact (membersOf request.fields) = true := by
  rw [isPlain, Bool.and_eq_true] at plain
  rw [membersAreExact_membersOf]
  simp [fields, all_isExact plain.1, ReplyTo.toValue_eq, ReplyTo.exact_fields plain.2,
    Caller.toValue, Value.isExact, Value.membersAreExact]

theorem Incoming.exact_fields {frame : Incoming} (small : frame.code < codeLimit) :
    Value.membersAreExact (membersOf frame.fields) = true := by
  have code : (Value.number (.integer frame.code)).isExact = true := by
    rw [Value.isExact, isExact_code small]
  have text : ∀ s, (Value.text s).isExact = true := fun _ => rfl
  rw [membersAreExact_membersOf, fields, List.all_cons, List.all_cons, List.all_cons, List.all_nil]
  dsimp only
  rw [Option.all_some, Option.all_some, Option.all_some, text, text, code]
  rfl

/-- Every message is read back from its text: all texts and status codes, and all payloads of exact
numbers in which containers are not nested too deep. Only what is null where something may be
missing arrives as absent. A response or an update that travels as the content of a frame comes out
of the frame with its code. -/
theorem messages_are_read_back :
    (∀ frame : Incoming, frame.code < codeLimit →
      Incoming.read.ofString? frame.toValue.write = some frame) ∧
    (∀ frame : Outgoing, frame.isPlain = true → frame.toValue.nesting < 128 →
      Outgoing.read.ofString? frame.encode = some frame) ∧
    (∀ request : Request, request.isPlain = true → request.toValue.nesting < 128 →
      Request.read.ofString? request.toValue.write = some request.arrived) ∧
    (∀ replyTo : ReplyTo, replyTo.isPlain = true → replyTo.toValue.nesting < 128 →
      ReplyTo.read.ofString? replyTo.toValue.write = some replyTo.arrived) ∧
    (∀ echo : Echo, Echo.read.ofString? echo.toValue.write = some echo) ∧
    (∀ response : Response, response.isPlain = true → response.toValue.nesting < 128 →
      Response.read.ofString? response.toValue.write = some response.arrived ∧
      ∀ code < codeLimit, ∃ frame,
        Incoming.read.ofString? (response.frame code).toValue.write = some frame ∧
        frame.kind = .response ∧ frame.code = code ∧
        Response.read.ofString? frame.content = some response.arrived) ∧
    (∀ push : Push, push.isPlain = true → push.toValue.nesting < 128 →
      Push.read.ofString? push.toValue.write = some push.arrived ∧
      ∀ code, Update.ofFrame? (push.frame code) =
        some { kind := push.kind, code, message := push.message, data := present push.data }) := by
  have frames : ∀ frame : Incoming, frame.code < codeLimit →
      Incoming.read.ofString? frame.toValue.write = some frame := by
    intro frame small
    have tree := Incoming.read_datum small (show 0 < nestingLimit by decide)
    rw [Incoming.toValue_eq] at tree ⊢
    rw [Reader.ofString?_write _ (Incoming.exact_fields small), tree]
  refine ⟨frames, ?outgoing, ?request, ?replyTo, ?echo, ?response, ?push⟩
  case outgoing =>
    intro frame plain nests
    rw [Reader.ofString?_eq_ofBytes?, Outgoing.read_encode plain nests]
  case request =>
    intro request plain nests
    have tree := Request.read_datum plain (le_nestingLimit nests)
    rw [Request.toValue_eq] at tree ⊢
    rw [Reader.ofString?_write _ (Request.exact_fields plain), tree]
  case replyTo =>
    intro replyTo plain nests
    have tree := ReplyTo.read_datum plain (le_nestingLimit nests)
    rw [ReplyTo.toValue_eq] at tree ⊢
    rw [Reader.ofString?_write _ (ReplyTo.exact_fields plain), tree]
  case echo =>
    intro echo
    have tree := echo.read_datum (show 0 < nestingLimit by decide)
    rw [Echo.toValue_eq] at tree ⊢
    rw [Reader.ofString?_write _ echo.exact_fields, tree]
  case response =>
    intro response plain nests
    have content : Response.read.ofString? response.toValue.write = some response.arrived := by
      have tree := Response.read_datum plain (le_nestingLimit nests)
      rw [Response.toValue_eq] at tree ⊢
      rw [Reader.ofString?_write _ (Response.exact_fields plain), tree]
    exact ⟨content, fun code small => ⟨_, frames (response.frame code) small, rfl, rfl, content⟩⟩
  case push =>
    intro push plain nests
    have content : Push.read.ofString? push.toValue.write = some push.arrived := by
      have tree := Push.read_datum plain (le_nestingLimit nests)
      rw [Push.toValue_eq] at tree ⊢
      rw [Reader.ofString?_write _ (Push.exact_fields plain), tree]
    refine ⟨content, fun code => ?_⟩
    rw [Update.ofFrame?, Push.frame, content]
    rfl

/-- A request whose data uses the names that a request has itself, and whose arguments are null. -/
def boldRequest : Request where
  auth := { identity := "alice", token := "t0k", group := "ops" }
  handler := "users.list"
  data := some [("auth", .object []), ("room", .array [.number (.integer (-1)), .text "\t\"é"])]
  callback := { id := "cb-0", args := some .null, silent := true }

def fullResponse : Response where
  message := "line\nbreak"
  data := some .null
  callback := some { id := "cb-0", silent := true }
  level := some .warn
  error := some ""

def boldFrame : Outgoing := { kind := "submit", payload := boldRequest.payload }

def barePush : Push := { kind := .statusChange, data := some .null }

theorem messages_are_read_back_null :
    (65535 < codeLimit ∧ Incoming.read.ofString? (fullResponse.frame 65535).toValue.write =
      some (fullResponse.frame 65535)) ∧
    (boldFrame.isPlain = true ∧ boldFrame.toValue.nesting < 128 ∧
      Outgoing.read.ofString? boldFrame.encode = some boldFrame) ∧
    (boldRequest.isPlain = true ∧ boldRequest.toValue.nesting < 128 ∧
      Request.read.ofString? boldRequest.toValue.write =
        some { boldRequest with callback := { id := "cb-0", silent := true } }) ∧
    (boldRequest.callback.isPlain = true ∧ boldRequest.callback.toValue.nesting < 128 ∧
      ReplyTo.read.ofString? boldRequest.callback.toValue.write =
        some { id := "cb-0", silent := true }) ∧
    (fullResponse.isPlain = true ∧ fullResponse.toValue.nesting < 128 ∧
      Response.read.ofString? fullResponse.toValue.write =
        some { fullResponse with data := none }) ∧
    (barePush.isPlain = true ∧ barePush.toValue.nesting < 128 ∧
      Update.ofFrame? (barePush.frame 204) =
        some { kind := .statusChange, code := 204, message := "" }) := by
  have small : 65535 < codeLimit := by decide +kernel
  have frame : boldFrame.isPlain = true ∧ boldFrame.toValue.nesting < 128 := by decide +kernel
  have request : boldRequest.isPlain = true ∧ boldRequest.toValue.nesting < 128 := by
    decide +kernel
  have replyTo : boldRequest.callback.isPlain = true ∧
      boldRequest.callback.toValue.nesting < 128 := by
    decide +kernel
  have response : fullResponse.isPlain = true ∧ fullResponse.toValue.nesting < 128 := by
    decide +kernel
  have push : barePush.isPlain = true ∧ barePush.toValue.nesting < 128 := by decide +kernel
  obtain ⟨frames, outgoing, requests, replies, -, responses, pushes⟩ := messages_are_read_back
  exact ⟨⟨small, frames _ small⟩, ⟨frame.1, frame.2, outgoing _ frame.1 frame.2⟩,
    ⟨request.1, request.2, requests _ request.1 request.2⟩,
    ⟨replyTo.1, replyTo.2, replies _ replyTo.1 replyTo.2⟩,
    ⟨response.1, response.2, (responses _ response.1 response.2).1⟩,
    push.1, push.2, (pushes _ push.1 push.2).2 204⟩

end PageSession.Message
