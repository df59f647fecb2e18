import PageSession.Proofs.Exchange.Tagging

/-!
Rooms of different sessions. A room is an identity and a session with a colon between them, and both
may hold colons of their own: two sessions share a room exactly when one of them is divided at a
colon that stands inside the identity or the session of the other. Apart from such sessions, and
from frames that are emitted by hand under another room, no frame of one session names the room of
another.
-/
namespace PageSession.Exchange
open Json Message

/-! ## Names of rooms -/

/-- A text that is divided at two places: they are the same, or a piece lies between them. -/
theorem eq_append_cons_iff {α : Type} {front front' back back' : List α} {mark : α} :
    front ++ mark :: back = front' ++ mark :: back' ↔
      front = front' ∧ back = back' ∨
        (∃ piece, front' = front ++ mark :: piece ∧ back = piece ++ mark :: back') ∨
        ∃ piece, front = front' ++ mark :: piece ∧ back' = piece ++ mark :: back := by
  constructor
  · intro same
    rcases List.append_eq_append_iff.mp same with ⟨piece, longer, rest⟩ | ⟨piece, longer, rest⟩
    · cases piece with
      | nil =>
        rw [List.append_nil] at longer
        exact .inl ⟨longer.symm, (List.cons.inj rest).2⟩
      | cons first piece =>
        obtain ⟨rfl, behind⟩ := List.cons.inj rest
        exact .inr (.inl ⟨piece, longer, behind⟩)
    · cases piece with
      | nil =>
        rw [List.append_nil] at longer
        exact .inl ⟨longer, (List.cons.inj rest).2.symm⟩
      | cons first piece =>
        obtain ⟨rfl, behind⟩ := List.cons.inj rest
        exact .inr (.inr ⟨piece, longer, behind⟩)
  · rintro (⟨rfl, rfl⟩ | ⟨piece, rfl, rfl⟩ | ⟨piece, rfl, rfl⟩)
    · rfl
    · simp
    · simp

namespace Credentials

/-- The same room is divided at a colon further behind in the second credentials: what stands
between the two colons ends the identity of the second and begins the session of the first. -/
def Shifted (c c' : Credentials) : Prop :=
  ∃ text, c'.identity = c.identity ++ ":" ++ text ∧ c.session = text ++ ":" ++ c'.session

theorem shifted_iff (c c' : Credentials) :
    c.Shifted c' ↔ ∃ piece, c'.identity.toList = c.identity.toList ++ ':' :: piece ∧
      c.session.toList = piece ++ ':' :: c'.session.toList := by
  have colon : ":".toList = [':'] := rfl
  constructor
  · rintro ⟨text, identity, session⟩
    exact ⟨text.toList, by simp [identity, colon], by simp [session, colon]⟩
  · rintro ⟨piece, identity, session⟩
    refine ⟨String.ofList piece, ?_, ?_⟩
    · simpa [← String.toList_inj, colon] using identity
    · simpa [← String.toList_inj, colon] using session

theorem room_eq_iff (c c' : Credentials) :
    c.room = c'.room ↔
      c.identity = c'.identity ∧ c.session = c'.session ∨ c.Shifted c' ∨ c'.Shifted c := by
  have spelled (c : Credentials) :
      c.room.toList = c.identity.toList ++ ':' :: c.session.toList := by
    simp [room, String.toList_append]
  rw [← String.toList_inj, spelled, spelled, eq_append_cons_iff, shifted_iff, shifted_iff,
    String.toList_inj, String.toList_inj]

/-- Credentials are shifted against others only where an identity holds a colon. -/
theorem Shifted.colon {c c' : Credentials} (shifted : c.Shifted c') :
    ':' ∈ c'.identity.toList := by
  obtain ⟨piece, identity, -⟩ := (shifted_iff c c').mp shifted
  simp [identity]

end Credentials

/-! ## Rooms of frames -/

/-- A member is found where it was whatever is set under another name. -/
theorem Members.get?_set_of_ne {name other : String} (different : name ≠ other) (members : Members)
    (value : Value) : Members.get? (members.set other value) name = members.get? name := by
  have unequal : (other == name) = false := by simpa using different.symm
  induction members with
  | nil => simp [Members.set, Members.get?, unequal]
  | cons member members ih =>
    obtain ⟨first, old⟩ := member
    rw [Members.set]
    split
    · simp [Members.get?, unequal]
    · split
      · rename_i same
        subst same
        simp [Members.get?, unequal]
      · by_cases here : (first == name) = true
        · simp [Members.get?, here]
        · simpa [Members.get?, here] using ih

/-- Sorting brings no names. -/
theorem Value.get?_sortedMembers {name : String} {members : List (String × Value)}
    (unnamed : ∀ member ∈ members, name ≠ member.1) (done : Members) :
    Members.get? (Value.sortedMembers members done) name = done.get? name := by
  induction members generalizing done with
  | nil => rfl
  | cons member members ih =>
    obtain ⟨other, value⟩ := member
    have different : name ≠ other := unnamed (other, value) List.mem_cons_self
    rw [Value.sortedMembers, ih fun member listed => unnamed member (List.mem_cons_of_mem _ listed),
      Members.get?_set_of_ne different]

/-- No member of a request is a room. -/
theorem request_roomless (request : Request) : request.payload.get? "room" = none := by
  obtain ⟨members, tree, unnamed⟩ : ∃ members, request.toValue = .object members ∧
      ∀ member ∈ members, "room" ≠ member.1 := by
    refine ⟨_, rfl, ?_⟩
    cases request.data <;> simp [optionalMember]
  have made := request.sorted_eq_payload
  rw [tree, Value.sorted] at made
  rw [← Value.object.inj made]
  exact Value.get?_sortedMembers unnamed []

/-- The frame was emitted as it is queued, under a room that is not the one of the session. -/
def Credentials.Strays (credentials : Credentials) (traffic : List Traffic) (frame : Outgoing) :
    Prop :=
  frame.payload.get? "room" ≠ some (.text credentials.room) ∧
    .emit frame.kind frame.payload ∈ traffic

namespace Link
variable {index : Nat} {frame : Outgoing}

/-- A frame is queued under the room of the session, or as it is emitted. -/
theorem room_of_queued {link : Link} {piece : Traffic} (inside : frame ∈ queued index link piece) :
    frame.payload.get? "room" = some (.text link.credentials.room) ∨
      piece = .emit frame.kind frame.payload := by
  unfold queued at inside
  split at inside
  · rename_i kind payload
    split at inside
    · rw [List.mem_singleton.mp inside]
      unfold tagged Members.setDefault
      split
      · exact .inr rfl
      · exact .inl (get?_set ..)
    · cases inside
  · split at inside
    · rw [List.mem_singleton.mp inside]
      exact .inl rfl
    · cases inside
  · cases inside

/-- Whatever has happened, a frame on a line names the room of the session, or strays. -/
theorem own_or_strays {credentials : Credentials} {traffic : List Traffic}
    (inside : frame ∈ (({ credentials } : Link).run traffic).outbox index) :
    frame.payload.get? "room" = some (.text credentials.room) ∨
      credentials.Strays traffic frame := by
  by_cases own : frame.payload.get? "room" = some (.text credentials.room)
  · exact .inl own
  · refine .inr ⟨own, ?_⟩
    induction traffic with
    | nil => simp [run, outbox, line?] at inside
    | cons piece earlier ih =>
      rw [run, outbox_after, List.mem_append] at inside
      rcases inside with before | now
      · exact List.mem_cons_of_mem _ (ih before)
      · have queued := room_of_queued now
        rw [credentials_run] at queued
        rw [queued.resolve_left own]
        exact List.mem_cons_self

end Link

/-! ## Frames emitted by hand -/

/-- What a move emits as it is given, by hand and not for a request. -/
def Stage.given? {H W : Type} (stage : Stage H W) : ConcurrentMove H → Option Outgoing
  | .move .work =>
    match stage.machine.control with
    | .perform (.emit kind payload) | .perform (.emitThen kind payload) => some { kind, payload }
    | _ => none
  | .traffic (.emit kind payload) => some { kind, payload }
  | _ => none

/-- The frame was emitted by hand, under a room that is not the one of the session. -/
def IsStray {H W : Type} (credentials : Credentials) (past : ConcurrentPast H W)
    (frame : Outgoing) : Prop :=
  frame.payload.get? "room" ≠ some (.text credentials.room) ∧
    ∃ moved ∈ past, moved.1.given? moved.2 = some frame

section
variable {H W : Type}

/-- What is emitted for a request names no room itself. -/
theorem Desk.roomless_of_submitTraffic {desk : Desk H W} {s : Submission H} {kind : String}
    {payload : Members} (inside : .emit kind payload ∈ desk.submitTraffic s) :
    payload.get? "room" = none := by
  unfold submitTraffic at inside
  split at inside
  · cases List.mem_singleton.mp inside
    exact request_roomless _
  · cases inside

theorem Desk.emit_not_mem_peerTraffic (desk : Desk H W) (line : Option Nat) (action : PeerAction)
    (kind : String) (payload : Members) : .emit kind payload ∉ desk.peerTraffic line action := by
  unfold peerTraffic actTraffic
  dsimp only
  repeat' split
  all_goals simp

theorem Desk.emit_not_mem_openedTraffic (desk : Desk H W) (outcome : Except String Nat)
    (kind : String) (payload : Members) : .emit kind payload ∉ desk.openedTraffic outcome := by
  unfold openedTraffic
  dsimp only
  split <;> simp

/-- Only what is given by hand is emitted with a room. -/
theorem Stage.given_of_traffic {stage : Stage H W} {move : ConcurrentMove H} {frame : Outgoing}
    (emitted : .emit frame.kind frame.payload ∈ stage.traffic move)
    (named : (frame.payload.get? "room").isSome = true) : stage.given? move = some frame := by
  have roomless {desk : Desk H W} {s : Submission H}
      (inside : .emit frame.kind frame.payload ∈ desk.submitTraffic s) : False := by
    rw [Desk.roomless_of_submitTraffic inside] at named
    cases named
  cases move with
  | submit s => exact (roomless emitted).elim
  | advance ms => cases emitted
  | traffic piece =>
    cases List.mem_singleton.mp emitted
    rfl
  | move move =>
    cases move with
    | opened outcome => exact absurd emitted (stage.desk.emit_not_mem_openedTraffic outcome _ _)
    | work =>
      simp only [Stage.traffic, Machine.traffic] at emitted
      simp only [given?]
      split at emitted
      · exact (roomless emitted).elim
      · cases List.mem_singleton.mp emitted
        rename_i performed
        rw [performed]
      · cases List.mem_singleton.mp emitted
        rename_i performed
        rw [performed]
      · simp [Desk.takeTraffic] at emitted
      · simp [Desk.takeTraffic] at emitted
      · exact absurd emitted (Desk.emit_not_mem_peerTraffic _ _ _ _ _)
      · cases emitted
    | handle | leave | pump | report | lay | dial => cases List.mem_singleton.mp emitted
    | act | start | expire | wake | aim | sleep | advance | schedule | exchange => cases emitted

/-- On every run a frame names the room of the session, or is a stray one. -/
theorem ConcurrentRun.own_or_stray {behave : Behaviour H W} {settings : Settings}
    {credentials : Credentials} {page : W} {past : ConcurrentPast H W} {stage : Stage H W}
    (run : ConcurrentRun behave (Stage.opening settings credentials page) past stage) {index : Nat}
    {frame : Outgoing} (queued : frame ∈ stage.desk.link.outbox index) :
    frame.payload.get? "room" = some (.text credentials.room) ∨ IsStray credentials past frame := by
  have linked : stage.desk.link = ({ credentials } : Link).run (trafficOf past) := run.link
  rw [linked] at queued
  refine (Link.own_or_strays queued).imp_right fun ⟨other, emitted⟩ => ?_
  obtain ⟨moved, listed, caused⟩ := List.mem_flatMap.mp emitted
  exact ⟨other, moved, listed, Stage.given_of_traffic caused (Link.rooms_of_run queued)⟩

end

/-- Frames of sessions that differ in identity or in session never name the same room, on any two
runs and whatever the credentials are, unless the credentials are shifted against each other or one
of the frames was emitted by hand under another room. The same holds of any traffic of two links.
The credentials that are shifted are exactly those that share a room, and they are not without a
colon in an identity. -/
theorem rooms_differ_unless_shifted {H W H' W' : Type} {behave : Behaviour H W}
    {behave' : Behaviour H' W'} {settings settings' : Settings} {c c' : Credentials} {page : W}
    {page' : W'} {past : ConcurrentPast H W} {past' : ConcurrentPast H' W'} {stage : Stage H W}
    {stage' : Stage H' W'}
    (differ : c.identity ≠ c'.identity ∨ c.session ≠ c'.session)
    (run : ConcurrentRun behave (Stage.opening settings c page) past stage)
    (run' : ConcurrentRun behave' (Stage.opening settings' c' page') past' stage') :
    (∀ index, ∀ frame ∈ stage.desk.link.outbox index,
      ∀ index', ∀ frame' ∈ stage'.desk.link.outbox index',
        frame.payload.get? "room" = frame'.payload.get? "room" →
          c.Shifted c' ∨ c'.Shifted c ∨ IsStray c past frame ∨ IsStray c' past' frame') ∧
    (∀ traffic index, ∀ frame ∈ (({ credentials := c } : Link).run traffic).outbox index,
      ∀ traffic' index', ∀ frame' ∈ (({ credentials := c' } : Link).run traffic').outbox index',
        frame.payload.get? "room" = frame'.payload.get? "room" →
          c.Shifted c' ∨ c'.Shifted c ∨ c.Strays traffic frame ∨ c'.Strays traffic' frame') ∧
    (c.Shifted c' ∨ c'.Shifted c ↔ c.room = c'.room) ∧
    (':' ∉ c.identity.toList → ':' ∉ c'.identity.toList → c.room ≠ c'.room) := by
  have exact : c.Shifted c' ∨ c'.Shifted c ↔ c.room = c'.room := by
    rw [Credentials.room_eq_iff]
    exact ⟨.inr, fun same => same.resolve_left fun equal => differ.elim (· equal.1) (· equal.2)⟩
  have shifted {room room' : Option Value} (own : room = some (.text c.room))
      (own' : room' = some (.text c'.room)) (same : room = room') :
      c.Shifted c' ∨ c'.Shifted c := by
    rw [own, own', Option.some.injEq, Value.text.injEq] at same
    exact exact.mpr same
  refine ⟨?runs, ?histories, exact, fun plain plain' same => ?plain⟩
  case runs =>
    intro index frame queued index' frame' queued' same
    rcases run.own_or_stray queued with own | stray
    · rcases run'.own_or_stray queued' with own' | stray'
      · exact or_assoc.mp (.inl (shifted own own' same))
      · exact .inr (.inr (.inr stray'))
    · exact .inr (.inr (.inl stray))
  case histories =>
    intro traffic index frame queued traffic' index' frame' queued' same
    rcases Link.own_or_strays queued with own | stray
    · rcases Link.own_or_strays queued' with own' | stray'
      · exact or_assoc.mp (.inl (shifted own own' same))
      · exact .inr (.inr (.inr stray'))
    · exact .inr (.inr (.inl stray))
  case plain =>
    rcases exact.mpr same with shifted | shifted
    · exact plain' shifted.colon
    · exact plain shifted.colon

def Credentials.stored (c : Credentials) : String → Option String
  | "endpoint" => some c.endpoint
  | "identity" => some c.identity
  | "token" => some c.token
  | "session" => some c.session
  | "group" => some c.group
  | _ => none

/-- Whoever connects to a line joins the room, and nothing else is sent yet. -/
theorem ConcurrentRun.connected (credentials : Credentials) :
    ∃ past stage, ConcurrentRun quiet (Stage.opening {} credentials ()) past stage ∧
      (∀ moved ∈ past, moved.1.given? moved.2 = none) ∧
      stage.desk.link.outbox 0 = [joinFrame credentials] := by
  have reached : ∃ past stage, Stage.interleaveAll quiet
      [.move (.lay false), .move .dial, .move (.opened (.ok 0))]
      ([], .opening {} credentials ()) = some (past, stage) ∧
        (∀ moved ∈ past, moved.1.given? moved.2 = none) ∧
        stage.desk.link.outbox 0 = [joinFrame credentials] := by
    refine ⟨_, _, rfl, ?_, rfl⟩
    simp [Stage.given?]
  obtain ⟨past, stage, reached, facts⟩ := reached
  exact ⟨past, stage, ConcurrentRun.start.interleaveAll reached, facts⟩

def elsewhere : Credentials := { someone with session := "s2" }

theorem rooms_differ_unless_shifted_elsewhere :
    Credentials.ofStore someone.stored = .ok someone ∧
      Credentials.ofStore elsewhere.stored = .ok elsewhere ∧
      ∃ past stage past' stage', ConcurrentRun quiet (Stage.opening {} someone ()) past stage ∧
        ConcurrentRun quiet (Stage.opening {} elsewhere ()) past' stage' ∧
        stage.desk.link.outbox 0 = [joinFrame someone] ∧
        stage'.desk.link.outbox 0 = [joinFrame elsewhere] ∧
        ∀ frame ∈ stage.desk.link.outbox 0, ∀ frame' ∈ stage'.desk.link.outbox 0,
          frame.payload.get? "room" ≠ frame'.payload.get? "room" := by
  obtain ⟨past, stage, run, plain, queued⟩ := ConcurrentRun.connected someone
  obtain ⟨past', stage', run', plain', queued'⟩ := ConcurrentRun.connected elsewhere
  refine ⟨rfl, rfl, past, stage, past', stage', run, run', queued, queued', ?_⟩
  intro frame inside frame' inside' same
  obtain ⟨runs, -, shared, apart⟩ :=
    rooms_differ_unless_shifted (.inr (by decide)) run run'
  have unshifted := shared.not.mpr (apart (by decide) (by decide))
  rcases or_assoc.mpr (runs 0 frame inside 0 frame' inside' same) with
    shifted | ⟨-, moved, listed, given⟩ | ⟨-, moved, listed, given⟩
  · exact unshifted shifted
  · cases (plain moved listed).symm.trans given
  · cases (plain' moved listed).symm.trans given

/-- Two sessions of which one is divided at a colon that belongs to the session of the other. -/
def dividedEarly : Credentials := { someone with identity := "a", session := "b:c" }

def dividedLate : Credentials := { someone with identity := "a:b", session := "c" }

/-- Sessions that differ in identity and in session join one room. And whoever emits a join by hand
may name the room of somebody else, with which nobody is shifted. -/
theorem rooms_shared :
    (Credentials.ofStore dividedEarly.stored = .ok dividedEarly ∧
      Credentials.ofStore dividedLate.stored = .ok dividedLate ∧
      dividedEarly.identity ≠ dividedLate.identity ∧ dividedEarly.session ≠ dividedLate.session ∧
      ∃ past stage past' stage', ConcurrentRun quiet (Stage.opening {} dividedEarly ()) past stage ∧
        ConcurrentRun quiet (Stage.opening {} dividedLate ()) past' stage' ∧
        ∃ frame ∈ stage.desk.link.outbox 0, ∃ frame' ∈ stage'.desk.link.outbox 0,
          frame.kind = "join" ∧ frame'.kind = "join" ∧
            frame.payload.get? "room" = frame'.payload.get? "room") ∧
    someone.session ≠ elsewhere.session ∧
      ∃ past stage past' stage', ConcurrentRun quiet (Stage.opening {} someone ()) past stage ∧
        ConcurrentRun quiet (Stage.opening {} elsewhere ()) past' stage' ∧
        ∃ frame ∈ stage.desk.link.outbox 0, ∃ frame' ∈ stage'.desk.link.outbox 0,
          frame.kind = "join" ∧ frame'.kind = "join" ∧
            frame.payload.get? "room" = frame'.payload.get? "room" := by
  refine ⟨⟨rfl, rfl, by decide, by decide, ?_⟩, by decide, ?_⟩
  · obtain ⟨past, stage, run, -, queued⟩ := ConcurrentRun.connected dividedEarly
    obtain ⟨past', stage', run', -, queued'⟩ := ConcurrentRun.connected dividedLate
    refine ⟨past, stage, past', stage', run, run', joinFrame dividedEarly, ?_,
      joinFrame dividedLate, ?_, rfl, rfl, rfl⟩
    · rw [queued]
      exact List.mem_singleton_self _
    · rw [queued']
      exact List.mem_singleton_self _
  · obtain ⟨past, stage, run, -, queued⟩ := ConcurrentRun.connected someone
    obtain ⟨past', stage', reached, queued'⟩ : ∃ past' stage',
        Stage.interleaveAll quiet [.move (.lay false), .move .dial, .move (.opened (.ok 0)),
          .traffic (.emit "join" [("room", .text "alice:s1")])]
          ([], .opening {} elsewhere ()) = some (past', stage') ∧
        stage'.desk.link.outbox 0 = [joinFrame elsewhere, joinFrame someone] :=
      ⟨_, _, rfl, rfl⟩
    refine ⟨past, stage, past', stage', run, ConcurrentRun.start.interleaveAll reached,
      joinFrame someone, ?_, joinFrame someone, ?_, rfl, rfl, rfl⟩
    · rw [queued]
      exact List.mem_singleton_self _
    · rw [queued']
      exact List.mem_cons_of_mem _ (List.mem_singleton_self _)

end PageSession.Exchange
