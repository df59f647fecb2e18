import PageSession.Json.Record
import PageSession.Proofs.Json.Tokens
import PageSession.Proofs.Text.Glyphs

/-!
Values written and read back. A value without binary numbers whose objects list their members by
increasing name is what its own text stands for, as long as its containers are not nested deeper
than a reader allows.
-/
namespace PageSession.Json

mutual

/-- Containers around the innermost part of a value. -/
def Value.nesting : Value → Nat
  | .array items => Value.itemNesting items + 1
  | .object members => Value.memberNesting members + 1
  | _ => 0

def Value.itemNesting : List Value → Nat
  | [] => 0
  | first :: rest => max first.nesting (Value.itemNesting rest)

def Value.memberNesting : List (String × Value) → Nat
  | [] => 0
  | (_, value) :: rest => max value.nesting (Value.memberNesting rest)

end

def Members.Increase (members : Members) : Prop :=
  members.Pairwise fun front behind => front.1 < behind.1

instance (members : Members) : Decidable members.Increase :=
  inferInstanceAs (Decidable (members.Pairwise fun front behind => front.1 < behind.1))

mutual

/-- All numbers are exact and all members stand by increasing name. -/
def Value.isPlain : Value → Bool
  | .number n => n.isExact
  | .array items => Value.itemsArePlain items
  | .object members => decide (Members.Increase members) && Value.membersArePlain members
  | _ => true

def Value.itemsArePlain : List Value → Bool
  | [] => true
  | first :: rest => first.isPlain && Value.itemsArePlain rest

def Value.membersArePlain : List (String × Value) → Bool
  | [] => true
  | (_, value) :: rest => value.isPlain && Value.membersArePlain rest

end

mutual

def Value.isExact : Value → Bool
  | .number n => n.isExact
  | .array items => Value.itemsAreExact items
  | .object members => Value.membersAreExact members
  | _ => true

def Value.itemsAreExact : List Value → Bool
  | [] => true
  | first :: rest => first.isExact && Value.itemsAreExact rest

def Value.membersAreExact : List (String × Value) → Bool
  | [] => true
  | (_, value) :: rest => value.isExact && Value.membersAreExact rest

end

mutual

theorem Value.isExact_of_isPlain (v : Value) (plain : v.isPlain = true) : v.isExact = true := by
  match v with
  | .null | .bool b | .text s => rfl
  | .number n => exact plain
  | .array items => exact Value.itemsAreExact_of_plain items plain
  | .object members =>
    rw [Value.isPlain, Bool.and_eq_true] at plain
    exact Value.membersAreExact_of_plain members plain.2

theorem Value.itemsAreExact_of_plain (items : List Value)
    (plain : Value.itemsArePlain items = true) : Value.itemsAreExact items = true := by
  match items with
  | [] => rfl
  | first :: rest =>
    rw [Value.itemsArePlain, Bool.and_eq_true] at plain
    rw [Value.itemsAreExact, Value.isExact_of_isPlain first plain.1,
      Value.itemsAreExact_of_plain rest plain.2]
    rfl

theorem Value.membersAreExact_of_plain (members : List (String × Value))
    (plain : Value.membersArePlain members = true) : Value.membersAreExact members = true := by
  match members with
  | [] => rfl
  | (name, value) :: rest =>
    rw [Value.membersArePlain, Bool.and_eq_true] at plain
    rw [Value.membersAreExact, Value.isExact_of_isPlain value plain.1,
      Value.membersAreExact_of_plain rest plain.2]
    rfl

end

/-! ## The tree of a value -/

mutual

def Value.datum : Value → Datum
  | .null => .null
  | .bool b => .bool b
  | .number n => .number n.numeral
  | .text s => .text (some s)
  | .array items => .array (Value.itemData items)
  | .object members => .object (Value.memberData members)

def Value.itemData : List Value → List Datum
  | [] => []
  | first :: rest => first.datum :: Value.itemData rest

def Value.memberData : List (String × Value) → List (Option String × Datum)
  | [] => []
  | (name, value) :: rest => (some name, value.datum) :: Value.memberData rest

end

def Place.takesValue : Place → Prop
  | .value | .firstItem => True
  | _ => False

/-- A builder goes on with the tokens behind one that it takes. -/
theorem foldlM_step {b : Builder} {token : Token} (later : Builder)
    (taken : b.step? token = some later) (behind : List Token) :
    (token :: behind).foldlM Builder.step? b = behind.foldlM Builder.step? later := by
  rw [List.foldlM_cons, taken]
  rfl

/-- A token that stands for a whole datum delivers it where a value may stand. -/
theorem foldlM_deliver {place : Place} (takes : place.takesValue) (openings : List Opening)
    {token : Token} {d : Datum}
    (whole : ∀ openings, Builder.value? openings token = deliver? d openings)
    (other : token ≠ .closeArray) (behind : List Token) :
    (token :: behind).foldlM Builder.step? ⟨place, openings⟩ =
      (deliver? d openings).bind fun b => behind.foldlM Builder.step? b := by
  have taken : Builder.step? ⟨place, openings⟩ token = deliver? d openings := by
    rw [← whole]
    cases place with
    | value => rfl
    | firstItem => cases token <;> first | rfl | exact absurd rfl other
    | firstName | name | colon | separator | finished => cases takes
  rw [List.foldlM_cons, taken]
  rfl

theorem step?_open {place : Place} (takes : place.takesValue) (openings : List Opening) :
    Builder.step? ⟨place, openings⟩ .openArray = some ⟨.firstItem, .array [] :: openings⟩ ∧
      Builder.step? ⟨place, openings⟩ .openObject = some ⟨.firstName, .object [] :: openings⟩ := by
  cases place with
  | value | firstItem => exact ⟨rfl, rfl⟩
  | firstName | name | colon | separator | finished => cases takes

mutual

/-- The tokens of a value deliver its tree, whatever stands behind them. -/
theorem Value.foldlM_tokens (v : Value) (place : Place) (takes : place.takesValue)
    (openings : List Opening) (behind : List Token) :
    (v.tokens behind).foldlM Builder.step? ⟨place, openings⟩ =
      (deliver? v.datum openings).bind fun b => behind.foldlM Builder.step? b := by
  match v with
  | .null | .bool b | .number n | .text s =>
    rw [Value.tokens, Value.datum]
    exact foldlM_deliver takes openings (fun _ => rfl) (by simp) behind
  | .array [] =>
    rw [Value.tokens, foldlM_step _ (step?_open takes openings).1]
    rfl
  | .array (first :: rest) =>
    rw [Value.tokens, foldlM_step _ (step?_open takes openings).1,
      Value.foldlM_tokens first .firstItem trivial, deliver?, Option.bind_some,
      Value.foldlM_itemTokens rest, List.foldlM_cons]
    simp [Builder.step?, closeArray?, Value.datum, Value.itemData]
  | .object [] =>
    rw [Value.tokens, foldlM_step _ (step?_open takes openings).2]
    rfl
  | .object ((name, value) :: rest) =>
    rw [Value.tokens, foldlM_step _ (step?_open takes openings).2,
      foldlM_step ⟨.colon, .member [] (some name) :: openings⟩ rfl,
      foldlM_step ⟨.value, .member [] (some name) :: openings⟩ rfl,
      Value.foldlM_tokens value .value trivial, deliver?, Option.bind_some,
      Value.foldlM_memberTokens rest, List.foldlM_cons]
    simp [Builder.step?, closeObject?, Value.datum, Value.memberData]

theorem Value.foldlM_itemTokens (items : List Value) (done : List Datum)
    (openings : List Opening) (behind : List Token) :
    (Value.itemTokens items behind).foldlM Builder.step? ⟨.separator, .array done :: openings⟩ =
      behind.foldlM Builder.step?
        ⟨.separator, .array ((Value.itemData items).reverse ++ done) :: openings⟩ := by
  match items with
  | [] => rfl
  | first :: rest =>
    rw [Value.itemTokens, foldlM_step ⟨.value, .array done :: openings⟩ rfl,
      Value.foldlM_tokens first .value trivial, deliver?, Option.bind_some,
      Value.foldlM_itemTokens rest]
    simp [Value.itemData]

theorem Value.foldlM_memberTokens (members : List (String × Value))
    (done : List (Option String × Datum)) (openings : List Opening) (behind : List Token) :
    (Value.memberTokens members behind).foldlM Builder.step?
        ⟨.separator, .object done :: openings⟩ =
      behind.foldlM Builder.step?
        ⟨.separator, .object ((Value.memberData members).reverse ++ done) :: openings⟩ := by
  match members with
  | [] => rfl
  | (name, value) :: rest =>
    rw [Value.memberTokens, foldlM_step ⟨.name, .object done :: openings⟩ rfl,
      foldlM_step ⟨.colon, .member done (some name) :: openings⟩ rfl,
      foldlM_step ⟨.value, .member done (some name) :: openings⟩ rfl,
      Value.foldlM_tokens value .value trivial, deliver?, Option.bind_some,
      Value.foldlM_memberTokens rest]
    simp [Value.memberData]

end

theorem ofTokens?_tokens (v : Value) : Datum.ofTokens? (v.tokens []) = some v.datum := by
  rw [Datum.ofTokens?, Value.foldlM_tokens v .value trivial]
  rfl

/-! ## The text of a value -/

/-- Tokens that are read back from their text. -/
structure AreLegible (tokens : List Token) : Prop where
  each : ∀ token ∈ tokens, token.IsLegible
  apart : AreApart tokens

def StartApart (tokens : List Token) : Prop :=
  ∀ token ∈ tokens.head?, token.isPunctuation = true

theorem AreLegible.cons {token : Token} {tokens : List Token} (legible : AreLegible tokens)
    (first : token.IsLegible) (starts : token.isOpenEnded = true → StartApart tokens) :
    AreLegible (token :: tokens) where
  each := by simpa using ⟨first, legible.each⟩
  apart := List.isChain_cons.mpr
    ⟨fun next inside openEnded => starts openEnded next inside, legible.apart⟩

/-- Punctuation and texts may be followed by anything. -/
theorem AreLegible.cons_closed {tokens : List Token} (legible : AreLegible tokens) (token : Token)
    (first : token.IsLegible) (closed : token.isOpenEnded = false) :
    AreLegible (token :: tokens) :=
  legible.cons first fun openEnded => by simp [closed] at openEnded

mutual

theorem Value.legible_tokens (v : Value) (numbers : v.isExact = true) {behind : List Token}
    (legible : AreLegible behind) (starts : StartApart behind) : AreLegible (v.tokens behind) := by
  match v with
  | .null | .bool b =>
    rw [Value.tokens]
    exact legible.cons trivial fun _ => starts
  | .number (.integer n) =>
    rw [Value.tokens]
    exact legible.cons ⟨n, rfl⟩ fun _ => starts
  | .number (.float x) => cases numbers
  | .text s =>
    rw [Value.tokens]
    exact legible.cons_closed _ rfl rfl
  | .array [] =>
    rw [Value.tokens]
    exact (legible.cons_closed .closeArray trivial rfl).cons_closed .openArray trivial rfl
  | .array (first :: rest) =>
    rw [Value.isExact, Value.itemsAreExact, Bool.and_eq_true] at numbers
    obtain ⟨more, moreStart⟩ := Value.legible_itemTokens rest numbers.2
      (legible.cons_closed .closeArray trivial rfl) (by simp [StartApart]; rfl)
    rw [Value.tokens]
    exact (Value.legible_tokens first numbers.1 more moreStart).cons_closed .openArray trivial rfl
  | .object members =>
    rw [Value.isExact] at numbers
    exact Value.legible_objectTokens members numbers legible

/-- The tokens of an object, in whatever order it lists its members. -/
theorem Value.legible_objectTokens (members : List (String × Value))
    (numbers : Value.membersAreExact members = true) {behind : List Token}
    (legible : AreLegible behind) : AreLegible ((Value.object members).tokens behind) := by
  match members with
  | [] =>
    rw [Value.tokens]
    exact (legible.cons_closed .closeObject trivial rfl).cons_closed .openObject trivial rfl
  | (name, value) :: rest =>
    rw [Value.membersAreExact, Bool.and_eq_true] at numbers
    obtain ⟨more, moreStart⟩ := Value.legible_memberTokens rest numbers.2
      (legible.cons_closed .closeObject trivial rfl) (by simp [StartApart]; rfl)
    have value := Value.legible_tokens value numbers.1 more moreStart
    rw [Value.tokens]
    exact ((value.cons_closed .colon trivial rfl).cons_closed (.text (some name)) rfl
      rfl).cons_closed .openObject trivial rfl

theorem Value.legible_itemTokens (items : List Value) (numbers : Value.itemsAreExact items = true)
    {behind : List Token} (legible : AreLegible behind) (starts : StartApart behind) :
    AreLegible (Value.itemTokens items behind) ∧ StartApart (Value.itemTokens items behind) := by
  match items with
  | [] => exact ⟨legible, starts⟩
  | first :: rest =>
    rw [Value.itemsAreExact, Bool.and_eq_true] at numbers
    obtain ⟨more, moreStart⟩ := Value.legible_itemTokens rest numbers.2 legible starts
    rw [Value.itemTokens]
    exact ⟨(Value.legible_tokens first numbers.1 more moreStart).cons_closed .comma trivial rfl,
      by simp [StartApart]; rfl⟩

theorem Value.legible_memberTokens (members : List (String × Value))
    (numbers : Value.membersAreExact members = true) {behind : List Token}
    (legible : AreLegible behind) (starts : StartApart behind) :
    AreLegible (Value.memberTokens members behind) ∧
      StartApart (Value.memberTokens members behind) := by
  match members with
  | [] => exact ⟨legible, starts⟩
  | (name, value) :: rest =>
    rw [Value.membersAreExact, Bool.and_eq_true] at numbers
    obtain ⟨more, moreStart⟩ := Value.legible_memberTokens rest numbers.2 legible starts
    have value := Value.legible_tokens value numbers.1 more moreStart
    rw [Value.memberTokens]
    exact ⟨((value.cons_closed .colon trivial rfl).cons_closed (.text (some name)) rfl
      rfl).cons_closed .comma trivial rfl,
      by simp [StartApart]; rfl⟩

end

/-- The bytes of legible tokens are read as the tree of their value. -/
theorem ofGlyphs?_write {v : Value} (legible : AreLegible (v.tokens [])) :
    Datum.ofGlyphs? (Text.glyphsOfBytes v.write.toUTF8) = some v.datum := by
  rw [Datum.ofGlyphs?, Text.glyphsOfBytes_toUTF8, Value.write,
    tokens?_writeTokens legible.each legible.apart, Option.bind_some, ofTokens?_tokens]

theorem AreLegible.nil : AreLegible [] := ⟨nofun, .nil⟩

/-- The bytes of an object are read as its tree, in whatever order it lists its members. -/
theorem ofGlyphs?_write_object {members : List (String × Value)}
    (numbers : Value.membersAreExact members = true) :
    Datum.ofGlyphs? (Text.glyphsOfBytes (Value.object members).write.toUTF8) =
      some (.object (Value.memberData members)) :=
  ofGlyphs?_write (Value.legible_objectTokens members numbers .nil)

/-! ## The value of a tree -/

/-- A member behind all others is set at the end. -/
theorem Members.set_of_increase {done : Members} {name : String} {value : Value}
    (behind : ∀ member ∈ done, member.1 < name) :
    Members.set name value done = done ++ [(name, value)] := by
  induction done with
  | nil => rfl
  | cons member done ih =>
    have before := behind member (by simp)
    have other : name ≠ member.1 := fun same => String.lt_irrefl name (same ▸ before)
    rw [Members.set, if_neg (String.lt_asymm before), if_neg other,
      ih fun other inside => behind other (by simp [inside])]
    rfl

mutual

theorem Value.value?_datum (v : Value) (plain : v.isPlain = true) (depth : Nat)
    (nests : v.nesting ≤ depth) : v.datum.value? depth = some v := by
  match v with
  | .null | .bool b | .text s => rfl
  | .number (.integer n) =>
    rw [Value.datum, Datum.value?, number?_numeral plain]
    rfl
  | .number (.float x) => cases plain
  | .array items =>
    rw [Value.nesting] at nests
    cases depth with
    | zero => omega
    | succ depth =>
      rw [Value.datum, Datum.value?, Value.items?_itemData items plain depth (by omega)]
      rfl
  | .object members =>
    rw [Value.nesting] at nests
    rw [Value.isPlain, Bool.and_eq_true, decide_eq_true_eq] at plain
    cases depth with
    | zero => omega
    | succ depth =>
      rw [Value.datum, Datum.value?,
        Value.members?_memberData members plain.2 depth (by omega) [] plain.1]
      rfl

theorem Value.items?_itemData (items : List Value) (plain : Value.itemsArePlain items = true)
    (depth : Nat) (nests : Value.itemNesting items ≤ depth) :
    Datum.items? depth (Value.itemData items) = some items := by
  match items with
  | [] => rfl
  | first :: rest =>
    rw [Value.itemsArePlain, Bool.and_eq_true] at plain
    rw [Value.itemNesting] at nests
    have value := Value.value?_datum first plain.1 depth (by omega)
    rw [Value.itemData, Datum.items?, value, Value.items?_itemData rest plain.2 depth (by omega)]
    rfl

theorem Value.members?_memberData (members : List (String × Value))
    (plain : Value.membersArePlain members = true) (depth : Nat)
    (nests : Value.memberNesting members ≤ depth) (done : Members)
    (increase : Members.Increase (done ++ members)) :
    Datum.members? depth (Value.memberData members) done = some (done ++ members) := by
  match members with
  | [] => simp [Value.memberData, Datum.members?]
  | (name, value) :: rest =>
    rw [Value.membersArePlain, Bool.and_eq_true] at plain
    rw [Value.memberNesting] at nests
    have read := Value.value?_datum value plain.1 depth (by omega)
    have set : Members.set name value done = done ++ [(name, value)] :=
      Members.set_of_increase fun member inside =>
        (List.pairwise_append.mp increase).2.2 member inside (name, value) (by simp)
    have next := Value.members?_memberData rest plain.2 depth (by omega)
      (done ++ [(name, value)]) (by simpa [Members.Increase] using increase)
    rw [Value.memberData, Datum.members?, read]
    simpa [set] using next

end

mutual

/-- A value that is nested deeper than allowed is not read. -/
theorem Value.value?_datum_deep (v : Value) (depth : Nat) (deep : depth < v.nesting) :
    v.datum.value? depth = none := by
  match v with
  | .null | .bool b | .number n | .text s => simp [Value.nesting] at deep
  | .array items =>
    rw [Value.nesting] at deep
    cases depth with
    | zero => rw [Value.datum, Datum.value?]
    | succ depth =>
      rw [Value.datum, Datum.value?, Value.items?_itemData_deep items depth (by omega)]
      rfl
  | .object members =>
    rw [Value.nesting] at deep
    cases depth with
    | zero => rw [Value.datum, Datum.value?]
    | succ depth =>
      rw [Value.datum, Datum.value?, Value.members?_memberData_deep members depth (by omega)]
      rfl

theorem Value.items?_itemData_deep (items : List Value) (depth : Nat)
    (deep : depth < Value.itemNesting items) :
    Datum.items? depth (Value.itemData items) = none := by
  match items with
  | [] => simp [Value.itemNesting] at deep
  | first :: rest =>
    rw [Value.itemNesting] at deep
    rw [Value.itemData, Datum.items?]
    by_cases here : depth < first.nesting
    · rw [Value.value?_datum_deep first depth here]
      rfl
    · rw [Value.items?_itemData_deep rest depth (by omega)]
      cases first.datum.value? depth <;> rfl

theorem Value.members?_memberData_deep (members : List (String × Value)) (depth : Nat)
    (deep : depth < Value.memberNesting members) (done : Members) :
    Datum.members? depth (Value.memberData members) done = none := by
  match members with
  | [] => simp [Value.memberNesting] at deep
  | (name, value) :: rest =>
    rw [Value.memberNesting] at deep
    rw [Value.memberData, Datum.members?]
    by_cases here : depth < value.nesting
    · rw [Value.value?_datum_deep value depth here]
      rfl
    · cases value.datum.value? depth with
      | none => rfl
      | some read =>
        exact Value.members?_memberData_deep rest depth (by omega) (done.set name read)

end

/-- A plain value is read back from its bytes. -/
theorem Reader.value_write {v : Value} (plain : v.isPlain = true)
    (nests : v.nesting ≤ nestingLimit) : Reader.value.ofBytes? v.write.toUTF8 = some v := by
  have legible := Value.legible_tokens v (v.isExact_of_isPlain plain) .nil nofun
  rw [Reader.ofBytes?, ofGlyphs?_write legible]
  exact Value.value?_datum v plain nestingLimit nests

end PageSession.Json
