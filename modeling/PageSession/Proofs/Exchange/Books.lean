import PageSession.Proofs.Exchange.SerialRun

/-!
The books of a desk are everything but its link and its services: requests, handlers, generated
ids, the log. The operations on the link change the link only, and those on services leave the books
alone. So does every move between operations, but for the clock.
-/
namespace PageSession.Exchange
open Json Message

namespace Desk
variable {H W : Type}

/-- Two desks keep the same books. -/
structure SameBooks (desk after : Desk H W) : Prop where
  settings : after.settings = desk.settings
  now : after.now = desk.now
  ids : after.ids = desk.ids
  calls : after.calls = desk.calls
  callbacks : after.callbacks = desk.callbacks
  methods : after.methods = desk.methods
  subscribers : after.subscribers = desk.subscribers
  dropped : after.dropped = desk.dropped
  page : after.page = desk.page
  log : after.log = desk.log

theorem SameBooks.refl (desk : Desk H W) : SameBooks desk desk := by
  constructor <;> rfl

theorem SameBooks.trans {first second third : Desk H W} (left : SameBooks first second)
    (right : SameBooks second third) : SameBooks first third where
  settings := right.settings.trans left.settings
  now := right.now.trans left.now
  ids := right.ids.trans left.ids
  calls := right.calls.trans left.calls
  callbacks := right.callbacks.trans left.callbacks
  methods := right.methods.trans left.methods
  subscribers := right.subscribers.trans left.subscribers
  dropped := right.dropped.trans left.dropped
  page := right.page.trans left.page
  log := right.log.trans left.log

/-! ## Operations on the link -/

theorem emit_desk (desk : Desk H W) (kind : String) (payload : Members) :
    ∃ link, (desk.emit kind payload).2 = { desk with link } := by
  unfold emit
  split
  · exact ⟨_, rfl⟩
  · exact ⟨desk.link, rfl⟩

theorem takeFrame_desk (desk : Desk H W) : ∃ link, desk.takeFrame.2 = { desk with link } := by
  unfold takeFrame
  split
  · exact ⟨desk.link, rfl⟩
  · split
    · exact ⟨_, rfl⟩
    · exact ⟨desk.link, rfl⟩

theorem takeNext?_desk {desk taken : Desk H W} {line : Nat} {frame : Incoming}
    (success : desk.takeNext? line = some (frame, taken)) : ∃ link, taken = { desk with link } := by
  unfold takeNext? at success
  split at success
  · split at success
    · cases success
      exact ⟨_, rfl⟩
    · cases success
  · cases success

theorem peer_desk (desk : Desk H W) (index : Option Nat) (action : PeerAction) :
    ∃ link, (desk.peer index action).2 = { desk with link } := by
  unfold peer
  dsimp only
  split
  · exact ⟨desk.link, rfl⟩
  · split
    · unfold peerAct
      dsimp only
      repeat' split
      all_goals exact ⟨_, rfl⟩
    · exact ⟨desk.link, rfl⟩

theorem release_desk (desk : Desk H W) (line : Nat) :
    ∃ link, desk.release line = { desk with link } := by
  unfold release
  split
  · exact ⟨_, rfl⟩
  · exact ⟨desk.link, rfl⟩

theorem summon_desk (desk : Desk H W) (worker : Worker) :
    ∃ agenda, desk.summon worker = { desk with agenda } := by
  unfold summon
  split
  · exact ⟨desk.agenda, rfl⟩
  · exact ⟨_, rfl⟩

/-- Opening a line changes what is read by hand, too. -/
theorem opened_desk (desk : Desk H W) (outcome : Except String Nat) :
    ∃ link stream agenda, (desk.opened outcome).2 = { desk with link, stream, agenda } := by
  unfold opened
  split
  · rename_i line link _
    dsimp only
    split
    · rename_i earlier _
      obtain ⟨released, same⟩ := release_desk { desk with link } earlier
      obtain ⟨agenda, summoned⟩ :=
        summon_desk { desk with link := released, stream := some line } (.pump line)
      rw [same]
      exact ⟨released, some line, agenda, summoned⟩
    · obtain ⟨agenda, summoned⟩ :=
        summon_desk { desk with link, stream := some line } (.pump line)
      exact ⟨link, some line, agenda, summoned⟩
  · exact ⟨_, desk.stream, desk.agenda, rfl⟩

/-- What an action leaves that makes nobody run and is no matter of requests or services. -/
inductive Aside (desk : Desk H W) : Desk H W → Prop
  | linked (link : Link) (agenda : List Worker) : Aside desk { desk with link, agenda }
  | enqueued (link : Link) : Aside desk (record { desk with link } .enqueued)
  | filed (callbacks : Table (Callback H)) (methods : Table H) (subscribers : Subscribers H) :
    Aside desk { desk with callbacks, methods, subscribers }

theorem Aside.of_link {desk after : Desk H W} (linked : ∃ link, after = { desk with link }) :
    Aside desk after := by
  obtain ⟨link, rfl⟩ := linked
  exact .linked link desk.agenda

/-! ## Operations on services -/

theorem sameBooks_enlist (desk : Desk H W) : SameBooks desk desk.enlist := by
  constructor <;> rfl

theorem sameBooks_setService (desk : Desk H W) (service : Service) :
    SameBooks desk (desk.setService service) := by
  constructor <;> rfl

theorem sameBooks_notifyService (desk : Desk H W) : SameBooks desk desk.notifyService := by
  unfold notifyService
  split
  · exact sameBooks_setService desk _
  · constructor <;> rfl

theorem sameBooks_stopService (desk : Desk H W) : SameBooks desk desk.stopService := by
  unfold stopService
  split
  · exact sameBooks_setService desk _
  · exact .refl desk

theorem sameBooks_unpark (desk : Desk H W) (service : Service) :
    SameBooks desk (desk.unpark service) := by
  unfold unpark
  dsimp only
  split
  · exact (sameBooks_setService desk _).trans (sameBooks_notifyService _)
  · exact sameBooks_setService desk _

theorem sameBooks_dismiss (desk : Desk H W) (service : Service) :
    SameBooks desk (desk.dismiss service) := by
  have awake := sameBooks_unpark desk service
  exact awake.trans (by constructor <;> rfl)

/-! ## Moves between operations -/

theorem sameBooks_rouse (desk : Desk H W) (service : Service) :
    SameBooks desk (desk.rouse service) :=
  sameBooks_setService desk _

theorem sameBooks_lull (desk : Desk H W) (service : Service) (alarm : Option Nat) :
    SameBooks desk (desk.lull service alarm) := by
  constructor <;> rfl

end Desk

namespace Stage
variable {H W : Type}

/-- What a move that is no step of an operation leaves: some time has passed, and a service may
wait for the answer of what it has begun. -/
structure Begun (desk : Desk H W) (time : Nat) (after : Stage H W) : Prop where
  books : Desk.SameBooks { desk with now := desk.now + time } after.desk
  stack : after.machine.stack = [] ∨ after.machine.stack = [.serving]

/-- A move that keeps all books, the clock too. -/
theorem Begun.of_sameBooks {desk : Desk H W} {after : Stage H W}
    (books : Desk.SameBooks desk after.desk)
    (stack : after.machine.stack = [] ∨ after.machine.stack = [.serving]) : Begun desk 0 after :=
  ⟨books, stack⟩

theorem begun_of_begin {desk : Desk H W} {aims : Nat → Option (Option Nat)} {move : Move H}
    {after : Stage H W} (made : begin desk aims move = some after) :
    Begun desk move.time after := by
  cases begins_of_begin made with
  | act action => exact .of_sameBooks (.refl desk) (.inl rfl)
  | start | pump | report | lay | dial | schedule =>
    exact .of_sameBooks (by constructor <;> rfl) (.inl rfl)
  | advance ms => exact ⟨by constructor <;> rfl, .inl rfl⟩
  | handle line service frame taken found received =>
    obtain ⟨link, rfl⟩ := Desk.takeNext?_desk received
    have awake := Desk.sameBooks_unpark { desk with link } service
    have taken : Desk.SameBooks desk { desk with link } := by constructor <;> rfl
    exact .of_sameBooks ((taken.trans awake).trans (Desk.sameBooks_enlist _)) (.inr rfl)
  | expire line service found due =>
    have awake := Desk.sameBooks_unpark desk service
    exact .of_sameBooks (awake.trans (Desk.sameBooks_enlist _)) (.inl rfl)
  | wake line service found notified =>
    exact .of_sameBooks (Desk.sameBooks_rouse desk service) (.inl rfl)
  | aim line service found awake => exact .of_sameBooks (.refl desk) (.inl rfl)
  | sleep line service alarm found aim awake =>
    exact .of_sameBooks (Desk.sameBooks_lull desk service alarm) (.inl rfl)
  | leave line service found ready =>
    have gone := Desk.sameBooks_dismiss desk service
    obtain ⟨link, released⟩ := (desk.dismiss service).release_desk line
    refine .of_sameBooks (gone.trans ?_) (.inl rfl)
    rw [released]
    constructor <;> rfl
  | opened outcome unused =>
    obtain ⟨link, stream, agenda, opened⟩ := Desk.opened_desk desk outcome
    have books : Desk.SameBooks desk (desk.opened outcome).2 := by
      rw [opened]
      constructor <;> rfl
    exact .of_sameBooks books (.inl rfl)

end Stage
end PageSession.Exchange
