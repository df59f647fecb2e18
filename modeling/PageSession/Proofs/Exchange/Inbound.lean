import PageSession.Proofs.Exchange.Readers
import PageSession.Proofs.Exchange.Verdicts

/-!
Frames on their way in, over a whole run. The frames that operations read by hand and those that
a service handles are, one after the other, the frames that the far end of the line reported before
the first final report: none is lost, doubled or overtaken, whatever the other reports and whatever
else goes on. A service counts its failures and goes on.
-/
namespace PageSession.Exchange
open Json Message

section
variable {H W : Type}

/-! ## What has come in -/

def arrivedOn (line : Nat) : ConcurrentPast H W → List Report :=
  collected fun stage move => stage.desk.link.history (Link.reported line) (stage.traffic move)

def passedOn (line : Nat) : ConcurrentPast H W → List Report :=
  collected fun stage move => stage.desk.link.history (Link.passed line) (stage.traffic move)

def takenOn (line : Nat) : ConcurrentPast H W → List Incoming :=
  collected fun stage move => stage.desk.link.history (Link.taken line) (stage.traffic move)

def openedOn (line : Nat) : ConcurrentPast H W → Bool
  | [] => false
  | (stage, move) :: past =>
    openedOn line past || stage.desk.link.isOpened line (stage.traffic move)

abbrev CarriedOn (line : Nat) (past : ConcurrentPast H W) (stage : Stage H W) : Prop :=
  stage.desk.link.Carries line (arrivedOn line past) (passedOn line past) (takenOn line past)
    (openedOn line past)

def Stage.startsOn (line : Nat) (stage : Stage H W) : ConcurrentMove H → Bool
  | .move .start => stage.desk.stream = some line
  | _ => false

def Stage.cancelsOn (line : Nat) (stage : Stage H W) : ConcurrentMove H → Bool
  | .move (.leave other) => other = line && (stage.desk.service? line).any Service.stopping
  | _ => false

def StartedOn (line : Nat) (past : ConcurrentPast H W) : Prop :=
  ∃ moved ∈ past, moved.1.startsOn line moved.2 = true

def CancelledOn (line : Nat) (past : ConcurrentPast H W) : Prop :=
  ∃ moved ∈ past, moved.1.cancelsOn line moved.2 = true

instance (line : Nat) (past : ConcurrentPast H W) : Decidable (StartedOn line past) :=
  inferInstanceAs (Decidable (∃ moved ∈ past, moved.1.startsOn line moved.2 = true))

instance (line : Nat) (past : ConcurrentPast H W) : Decidable (CancelledOn line past) :=
  inferInstanceAs (Decidable (∃ moved ∈ past, moved.1.cancelsOn line moved.2 = true))

def handledOn (line : Nat) (past : ConcurrentPast H W) : List Incoming :=
  ((handledIn past).filter fun handled => handled.1 = line).map Prod.snd

def Stage.readByHand (line : Nat) (stage : Stage H W) : ConcurrentMove H → List Incoming
  | .move .work => stage.desk.link.history (Link.taken line) stage.machine.traffic
  | _ => []

def readByHandOn (line : Nat) : ConcurrentPast H W → List Incoming :=
  collected (Stage.readByHand line)

end

/-! ## Causes of traffic -/

namespace Desk
variable {H W : Type}

theorem isForeign_of_submit {desk : Desk H W} {s : Submission H} {piece : Traffic}
    (member : piece ∈ desk.submitTraffic s) : piece.isForeign = true := by
  unfold submitTraffic at member
  split at member
  · rw [List.mem_singleton.mp member]
    rfl
  · cases member

theorem isForeign_of_peer {desk : Desk H W} {index : Option Nat} {action : PeerAction}
    {piece : Traffic} (member : piece ∈ desk.peerTraffic index action) :
    piece.isForeign = true := by
  unfold peerTraffic actTraffic at member
  dsimp only at member
  repeat' split at member
  all_goals first | (rw [List.mem_singleton.mp member]; rfl) | cases member

end Desk

namespace Machine
variable {H W : Type}

/-- An operation takes frames by hand; all else that it does to the link others can do as well. -/
theorem mem_traffic {m : Machine H W} {piece : Traffic} (member : piece ∈ m.traffic) :
    piece.isForeign = true ∨ ∃ line, piece = .take line ∧ m.desk.stream = some line := by
  obtain ⟨control, stack, desk⟩ := m
  cases control with
  | run | answer => cases member
  | perform action =>
    cases action with
    | submit s => exact .inl (Desk.isForeign_of_submit member)
    | peer line action => exact .inl (Desk.isForeign_of_peer member)
    | emit | emitThen =>
      rw [List.mem_singleton.mp member]
      exact .inl rfl
    | take | pull =>
      obtain ⟨line, reads, rfl⟩ := Option.map_eq_some_iff.mp (Option.mem_toList.mp member)
      exact .inr ⟨line, rfl, reads⟩
    | _ => cases member

end Machine

namespace Stage
variable {H W : Type}

/-- What a piece of traffic comes from. -/
theorem mem_traffic {behave : Behaviour H W} {stage after : Stage H W} {move : ConcurrentMove H}
    {piece : Traffic} (made : stage.interleave behave move = some after)
    (member : piece ∈ stage.traffic move) :
    piece.isForeign = true ∨ piece.isConnecting = true ∨
      (∃ line, piece = .take line ∧
        (move = .move (.handle line) ∨ move = .move .work ∧ stage.desk.stream = some line)) ∨
      ∃ line, piece = .release line ∧ (move = .move (.leave line) ∨ stage.desk.stream = some line ∧
        ∃ other, move = .move (.opened (.ok other)) ∧
          (stage.desk.opened (.ok other)).1 = .ok ()) := by
  cases move with
  | submit s => exact .inl (Desk.isForeign_of_submit member)
  | advance ms => cases member
  | traffic traffic =>
    simp only [Stage.interleave] at made
    split at made
    · rename_i foreign
      rw [List.mem_singleton.mp member]
      exact .inl foreign
    · cases made
  | move move =>
    cases move with
    | work =>
      rcases Machine.mem_traffic member with foreign | ⟨line, rfl, reads⟩
      · exact .inl foreign
      · exact .inr (.inr (.inl ⟨line, rfl, .inr ⟨rfl, reads⟩⟩))
    | handle line =>
      exact .inr (.inr (.inl ⟨line, List.mem_singleton.mp member, .inl rfl⟩))
    | leave line => exact .inr (.inr (.inr ⟨line, List.mem_singleton.mp member, .inl rfl⟩))
    | pump | report | lay =>
      rw [List.mem_singleton.mp member]
      exact .inl rfl
    | dial => exact .inr (.inl (List.mem_singleton.mp member ▸ rfl))
    | opened outcome =>
      rcases List.mem_append.mp member with released | connecting
      · split at released
        · rename_i done earlier success reads
          cases outcome with
          | error reason => cases success
          | ok other =>
            exact .inr (.inr (.inr ⟨earlier, List.mem_singleton.mp released,
              .inr ⟨reads, other, rfl, success⟩⟩))
        · cases released
      · exact .inr (.inl (List.mem_singleton.mp connecting ▸ rfl))
    | _ => cases member

end Stage

section
variable {H W : Type} {behave : Behaviour H W} {settings : Settings} {credentials : Credentials}
  {page : W} {past : ConcurrentPast H W} {stage : Stage H W}

/-! ## Frames in order -/

/-- The flow on every line over a whole run. -/
theorem ConcurrentRun.carries
    (run : ConcurrentRun behave (Stage.opening settings credentials page) past stage) (line : Nat) :
    CarriedOn line past stage := by
  induction run with
  | start => exact Link.Carries.empty rfl line
  | next before made ih =>
    rw [CarriedOn, Stage.link_interleave made]
    exact ih.onward _

/-- Who reads the frames of a line, and who has read them so far. -/
structure Inflow (line : Nat) (past : ConcurrentPast H W) (stage : Stage H W) : Prop where
  /-- First they are read by hand, then a service handles them. -/
  split : takenOn line past = readByHandOn line past ++ handledOn line past
  reading : stage.desk.stream = some line → ¬StartedOn line past ∧ openedOn line past = true
  reader : stage.desk.HasReader line → StartedOn line past
  opened : StartedOn line past → openedOn line past = true
  unhandled : ¬StartedOn line past → handledOn line past = []
  held : openedOn line past = false ∨ stage.desk.stream = some line ∨ stage.desk.HasReader line →
    ∀ l, stage.desk.link.line? line = some l → l.held = true
  /-- A service that leaves of its own accord has handled everything. -/
  left : StartedOn line past → ¬CancelledOn line past → ¬stage.desk.HasReader line →
    takenOn line past = framesOf (passedOn line past) ∧
      ∃ l, stage.desk.link.line? line = some l ∧ l.pump = .ended

/-- Without a frame taken from it nothing leaves a line. -/
theorem taken_eq_nil {link : Link} {line : Nat} {traffic : List Traffic}
    (untaken : .take line ∉ traffic) : link.history (Link.taken line) traffic = [] := by
  refine Link.history_eq_nil (fun piece member link => ?_) link
  cases piece with
  | take other =>
    have different : other ≠ line := fun same => untaken (same ▸ member)
    simp [Link.taken, different]
  | _ => rfl

theorem Desk.takeNext?_frame (desk : Desk H W) (line : Nat) :
    ((desk.takeNext? line).map fun taken => (line, taken.1)) =
      ((desk.link.line? line).bind fun line => line.inbox.head?).map (line, ·) := by
  unfold takeNext?
  cases desk.link.line? line with
  | none => rfl
  | some l => cases queue : l.inbox <;> simp [queue]

/-- A frame leaves a line for a service or for an operation that reads by hand. -/
theorem Stage.taken_interleave {after : Stage H W} {move : ConcurrentMove H} {line : Nat}
    (made : stage.interleave behave move = some after) :
    stage.desk.link.history (Link.taken line) (stage.traffic move) =
      stage.readByHand line move ++
        ((stage.handled move).filter fun handled => handled.1 = line).map Prod.snd := by
  by_cases working : move = .move .work
  · subst working
    simp [readByHand, handled, Stage.traffic]
  by_cases handling : ∃ other, move = .move (.handle other)
  · obtain ⟨other, rfl⟩ := handling
    simp only [Stage.traffic, Link.history, Link.run, Link.taken, readByHand, handled,
      Desk.takeNext?_frame]
    by_cases same : other = line
    · subst same
      cases (stage.desk.link.line? other).bind fun line => line.inbox.head? <;> simp
    · cases (stage.desk.link.line? other).bind fun line => line.inbox.head? <;> simp [same]
  · have silent : stage.readByHand line move = [] ∧ stage.handled move = [] := by
      cases move with
      | move move =>
        cases move with
        | work => exact absurd rfl working
        | handle other => exact absurd ⟨other, rfl⟩ handling
        | _ => exact ⟨rfl, rfl⟩
      | _ => exact ⟨rfl, rfl⟩
    rw [silent.1, silent.2]
    refine taken_eq_nil fun taking => ?_
    rcases mem_traffic made taking with foreign | connecting | ⟨other, -, handles | ⟨works, -⟩⟩ |
      ⟨other, impossible, -⟩
    · cases foreign
    · cases connecting
    · exact handling ⟨other, handles⟩
    · exact working works
    · cases impossible

theorem handledOn_cons (line : Nat) (move : ConcurrentMove H) :
    handledOn line ((stage, move) :: past) = handledOn line past ++
      ((stage.handled move).filter fun handled => handled.1 = line).map Prod.snd := by
  simp only [handledOn, handledIn, collected, List.filter_append, List.map_append]

namespace Inflow
variable {line : Nat} {move : ConcurrentMove H} {after : Stage H W}

theorem split_next (inflow : Inflow line past stage)
    (made : stage.interleave behave move = some after) :
    takenOn line ((stage, move) :: past) =
      readByHandOn line ((stage, move) :: past) ++ handledOn line ((stage, move) :: past) := by
  have now : stage.desk.link.history (Link.taken line) (stage.traffic move) = _ :=
    Stage.taken_interleave made
  have taken : takenOn line ((stage, move) :: past) = takenOn line past ++ _ :=
    congrArg (takenOn line past ++ ·) now
  have read : readByHandOn line ((stage, move) :: past) =
      readByHandOn line past ++ stage.readByHand line move := rfl
  rw [taken, read, handledOn_cons, inflow.split]
  by_cases byHand : stage.readByHand line move = []
  · simp [byHand]
  · have reads : stage.desk.stream = some line := by
      cases move with
      | move move =>
        cases move with
        | work =>
          by_contra elsewhere
          refine byHand (taken_eq_nil fun taking => ?_)
          rcases Machine.mem_traffic taking with foreign | ⟨other, same, reads⟩
          · cases foreign
          · cases same
            exact elsewhere reads
        | _ => exact absurd rfl byHand
      | _ => exact absurd rfl byHand
    rw [inflow.unhandled (inflow.reading reads).1]
    simp

end Inflow

/-! ## Those who read -/

theorem startedOn_cons {line : Nat} {move : ConcurrentMove H} :
    StartedOn line ((stage, move) :: past) ↔
      (move = .move .start ∧ stage.desk.stream = some line) ∨ StartedOn line past := by
  have starting : stage.startsOn line move = true ↔
      move = .move .start ∧ stage.desk.stream = some line := by
    unfold Stage.startsOn
    split
    · simp
    · rename_i others
      simpa using fun same => absurd same others
  rw [StartedOn, List.exists_mem_cons_iff, starting, StartedOn]

theorem cancelledOn_cons {line : Nat} {move : ConcurrentMove H} :
    CancelledOn line ((stage, move) :: past) ↔
      stage.cancelsOn line move = true ∨ CancelledOn line past :=
  List.exists_mem_cons_iff ..

theorem openedOn_cons {line : Nat} (move : ConcurrentMove H) (opened : openedOn line past = true) :
    openedOn line ((stage, move) :: past) = true := by
  rw [openedOn, opened, Bool.true_or]

/-- Nobody has connected on an unused line yet. -/
theorem openedOn_of_isUnused {line : Nat}
    (carries : CarriedOn line past stage)
    (unused : stage.desk.isUnused line = true) : openedOn line past = false := by
  obtain ⟨l, there, waiting⟩ := Link.isUnused_iff.mp unused
  exact Bool.eq_false_iff.mpr fun already => (carries.there l there).begun already waiting

/-- A line is released when its service leaves, or when another line is opened to be read by
hand. -/
theorem Stage.release_mem_traffic {after : Stage H W} {move : ConcurrentMove H} {line : Nat}
    (made : stage.interleave behave move = some after)
    (released : .release line ∈ stage.traffic move) :
    move = .move (.leave line) ∨ stage.desk.stream = some line ∧
      ∃ other, move = .move (.opened (.ok other)) ∧
        (stage.desk.opened (.ok other)).1 = .ok () := by
  rcases mem_traffic made released with foreign | connecting | ⟨other, impossible, -⟩ |
    ⟨other, same, cause⟩
  · cases foreign
  · cases connecting
  · cases impossible
  · cases same
    exact cause

theorem openedOn_of_opened {line : Nat} (unused : stage.desk.isUnused line = true)
    (success : (stage.desk.opened (.ok line)).1 = .ok ()) :
    openedOn line ((stage, .move (.opened (.ok line))) :: past) = true := by
  rw [openedOn, Stage.traffic, Desk.isOpened_of_opened unused success, Bool.or_true]

namespace Inflow
variable {line : Nat} {move : ConcurrentMove H} {after : Stage H W}

theorem reading_next (inflow : Inflow line past stage)
    (carries : CarriedOn line past stage)
    (reads : stage.Reads move after) (byHand : after.desk.stream = some line) :
    ¬StartedOn line ((stage, move) :: past) ∧ openedOn line ((stage, move) :: past) = true := by
  cases reads with
  | opens other _ unused success stream readers =>
    cases stream.symm.trans byHand
    have fresh := openedOn_of_isUnused carries unused
    refine ⟨fun started => ?_, openedOn_of_opened unused success⟩
    rcases startedOn_cons.mp started with ⟨impossible, -⟩ | earlier
    · cases impossible
    · cases fresh.symm.trans (inflow.opened earlier)
  | starts other _ before stream readers => cases stream.symm.trans byHand
  | leaves other _ service found ready stream readers =>
    obtain ⟨unstarted, opened⟩ := inflow.reading (stream.symm.trans byHand)
    refine ⟨fun started => ?_, openedOn_cons _ opened⟩
    rcases startedOn_cons.mp started with ⟨impossible, -⟩ | earlier
    · cases impossible
    · exact unstarted earlier
  | same _ _ stream readers stays unopened =>
    obtain ⟨unstarted, opened⟩ := inflow.reading (stream.symm.trans byHand)
    refine ⟨fun started => ?_, openedOn_cons _ opened⟩
    rcases startedOn_cons.mp started with ⟨starting, -⟩ | earlier
    · exact stays.1 starting
    · exact unstarted earlier

theorem reader_next (inflow : Inflow line past stage) (reads : stage.Reads move after)
    (served : after.desk.HasReader line) : StartedOn line ((stage, move) :: past) := by
  rw [startedOn_cons]
  cases reads with
  | opens _ _ _ _ _ readers => exact .inr (inflow.reader ((readers line).mp served))
  | starts other _ byHand stream readers =>
    rcases (readers line).mp served with before | same
    · exact .inr (inflow.reader before)
    · exact .inl ⟨rfl, same ▸ byHand⟩
  | leaves _ _ _ _ _ _ readers => exact .inr (inflow.reader ((readers line).mp served).1)
  | same _ _ _ readers => exact .inr (inflow.reader ((readers line).mp served))

theorem opened_next (inflow : Inflow line past stage)
    (started : StartedOn line ((stage, move) :: past)) :
    openedOn line ((stage, move) :: past) = true := by
  rcases startedOn_cons.mp started with ⟨-, byHand⟩ | earlier
  · exact openedOn_cons _ (inflow.reading byHand).2
  · exact openedOn_cons _ (inflow.opened earlier)

theorem unhandled_next (inflow : Inflow line past stage)
    (made : stage.interleave behave move = some after)
    (unstarted : ¬StartedOn line ((stage, move) :: past)) :
    handledOn line ((stage, move) :: past) = [] := by
  have before : ¬StartedOn line past := fun started => unstarted (startedOn_cons.mpr (.inr started))
  rw [handledOn_cons, inflow.unhandled before, List.nil_append, List.map_eq_nil_iff,
    List.filter_eq_nil_iff]
  intro handled member same
  cases move with
  | move move =>
    cases move with
    | handle other =>
      simp only [Stage.handled, Option.mem_toList, Option.map_eq_some_iff] at member
      obtain ⟨taken, -, rfl⟩ := member
      obtain rfl : other = line := of_decide_eq_true same
      have moved : stage.next behave (.handle other) = some after := made
      cases Stage.moved_of_next moved with
      | begun _ _ _ _ begun =>
        cases Stage.begins_of_begin begun with
        | handle _ service _ _ found =>
          exact before (inflow.reader ((stage.desk.hasReader_iff other).mpr ⟨service, found⟩))
    | _ => cases member
  | _ => cases member

theorem held_next (inflow : Inflow line past stage)
    (carries : CarriedOn line past stage)
    (made : stage.interleave behave move = some after)
    (kept : openedOn line ((stage, move) :: past) = false ∨ after.desk.stream = some line ∨
      after.desk.HasReader line) :
    ∀ l, after.desk.link.line? line = some l → l.held = true := by
  have unopened : openedOn line ((stage, move) :: past) = false → openedOn line past = false := by
    intro never
    exact Bool.eq_false_iff.mpr fun already =>
      absurd (openedOn_cons move already) (by rw [never]; decide)
  obtain ⟨unreleased, before⟩ : .release line ∉ stage.traffic move ∧
      (openedOn line past = false ∨ stage.desk.stream = some line ∨
        stage.desk.HasReader line) := by
    have cause : .release line ∈ stage.traffic move → _ := Stage.release_mem_traffic made
    cases Stage.reads_interleave made with
    | opens other _ unused success stream readers =>
      have before : openedOn line past = false ∨ stage.desk.HasReader line := by
        rcases kept with never | byHand | served
        · exact .inl (unopened never)
        · cases stream.symm.trans byHand
          exact .inl (openedOn_of_isUnused carries unused)
        · exact .inr ((readers line).mp served)
      refine ⟨fun released => ?_, before.imp_right .inr⟩
      rcases cause released with impossible | ⟨byHand, -⟩
      · cases impossible
      · obtain ⟨unstarted, opened⟩ := inflow.reading byHand
        rcases before with never | served
        · cases never.symm.trans opened
        · exact unstarted (inflow.reader served)
    | starts other _ byHand stream readers =>
      refine ⟨fun released => ?_, ?_⟩
      · rcases cause released with impossible | ⟨-, _, impossible, -⟩ <;> cases impossible
      · rcases kept with never | reading | served
        · exact .inl (unopened never)
        · cases stream.symm.trans reading
        · rcases (readers line).mp served with before | same
          · exact .inr (.inr before)
          · exact .inr (.inl (same ▸ byHand))
    | leaves other _ service found ready stream readers =>
      refine ⟨fun released => ?_, kept.imp unopened (.imp stream.symm.trans fun served =>
        ((readers line).mp served).1)⟩
      rcases cause released with same | ⟨-, _, impossible, -⟩
      · cases same
        have started := inflow.reader ((stage.desk.hasReader_iff line).mpr ⟨service, found⟩)
        rcases kept with never | byHand | served
        · cases (unopened never).symm.trans (inflow.opened started)
        · exact (inflow.reading (stream.symm.trans byHand)).1 started
        · exact ((readers line).mp served).2 rfl
      · cases impossible
    | same _ _ stream readers stays unconnected =>
      refine ⟨fun released => ?_, kept.imp unopened (.imp stream.symm.trans (readers line).mp)⟩
      rcases cause released with leaving | ⟨-, other, connecting, success⟩
      · exact stays.2 line leaving
      · exact unconnected other connecting success
  rw [Stage.link_interleave made]
  exact Link.held_run unreleased (inflow.held before)

/-- A service that has not been told to stop leaves when it has handled everything. -/
theorem left_of_leave (inflow : Inflow line past stage)
    (carries : CarriedOn line past stage)
    {service : Service} (found : stage.desk.service? line = some service)
    (drained : stage.desk.isDrained line = true) :
    takenOn line past = framesOf (passedOn line past) ∧
      ∃ l, stage.desk.link.line? line = some l ∧ l.pump = .ended := by
  have served : stage.desk.HasReader line := (stage.desk.hasReader_iff line).mpr ⟨service, found⟩
  have opened := inflow.opened (inflow.reader served)
  unfold Desk.isDrained at drained
  cases there : stage.desk.link.line? line with
  | none => cases opened.symm.trans (carries.absent there).2.2.2
  | some l =>
    rw [there] at drained
    simp only [Bool.and_eq_true, List.isEmpty_iff, decide_eq_true_eq] at drained
    have all := (carries.there l there).held (inflow.held (.inr (.inr served)) l there)
    rw [drained.1, List.append_nil] at all
    exact ⟨all, l, rfl, drained.2⟩

theorem left_next (inflow : Inflow line past stage)
    (carries : CarriedOn line past stage)
    (made : stage.interleave behave move = some after)
    (started : StartedOn line ((stage, move) :: past))
    (uncancelled : ¬CancelledOn line ((stage, move) :: past))
    (gone : ¬after.desk.HasReader line) :
    takenOn line ((stage, move) :: past) = framesOf (passedOn line ((stage, move) :: past)) ∧
      ∃ l, after.desk.link.line? line = some l ∧ l.pump = .ended := by
  obtain ⟨all, l, there, ended⟩ : takenOn line past = framesOf (passedOn line past) ∧
      ∃ l, stage.desk.link.line? line = some l ∧ l.pump = .ended := by
    by_cases served : stage.desk.HasReader line
    · cases Stage.reads_interleave made with
      | opens _ _ _ _ _ readers | same _ _ _ readers =>
        exact absurd ((readers line).mpr served) gone
      | starts _ _ _ _ readers => exact absurd ((readers line).mpr (.inl served)) gone
      | leaves other _ service found ready stream readers =>
        have own : line = other := by
          by_contra different
          exact gone ((readers line).mpr ⟨served, different⟩)
        subst own
        rcases Bool.or_eq_true_iff.mp ready with stopping | drained
        · refine absurd (cancelledOn_cons.mpr (.inl ?_)) uncancelled
          simp [Stage.cancelsOn, found, stopping]
        · exact inflow.left_of_leave carries found drained
    · refine inflow.left ?_ (fun before => uncancelled (cancelledOn_cons.mpr (.inr before)))
        served
      rcases startedOn_cons.mp started with ⟨rfl, byHand⟩ | earlier
      · cases Stage.reads_interleave made with
        | starts other _ before stream readers =>
          cases before.symm.trans byHand
          exact absurd ((readers line).mpr (.inr rfl)) gone
        | same _ _ _ _ stays => exact absurd rfl stays.1
      · exact earlier
  -- from now on nothing is passed, so nothing can be taken any more
  have silent : passedOn line ((stage, move) :: past) = passedOn line past := by
    have nothing := Link.passed_of_ended there ended (stage.traffic move)
    rw [passedOn, collected, nothing, List.append_nil]
  have finished := Link.ended_run there ended (stage.traffic move)
  rw [Stage.link_interleave made]
  refine ⟨?_, finished⟩
  obtain ⟨next, found, -⟩ := finished
  have flow := (carries.onward (stage.traffic move)).there next found
  have grown : takenOn line past <+: takenOn line ((stage, move) :: past) := List.prefix_append _ _
  have bounded : takenOn line ((stage, move) :: past) <+:
      framesOf (passedOn line ((stage, move) :: past)) := flow.taken
  rw [silent, ← all] at bounded ⊢
  exact (grown.eq_of_length_le bounded.length_le).symm

end Inflow

theorem ConcurrentRun.inflow
    (run : ConcurrentRun behave (Stage.opening settings credentials page) past stage) (line : Nat) :
    Inflow line past stage := by
  induction run with
  | start =>
    have unstarted : ¬StartedOn line ([] : ConcurrentPast H W) :=
      fun ⟨_, member, _⟩ => by cases member
    exact
      { split := rfl
        reading := fun byHand => by cases byHand
        reader := fun served => by cases served
        opened := fun started => absurd started unstarted
        unhandled := fun _ => rfl
        held := fun _ l there => by cases there
        left := fun started => absurd started unstarted }
  | @next past stage after move before made ih =>
    have carries := before.carries line
    have reads := Stage.reads_interleave made
    exact
      { split := ih.split_next made
        reading := ih.reading_next carries reads
        reader := ih.reader_next reads
        opened := ih.opened_next
        unhandled := ih.unhandled_next made
        held := ih.held_next carries made
        left := ih.left_next carries made }

/-- A service at rest has no frame before it. -/
theorem Desk.inbox_of_rest {desk : Desk H W} {service : Service}
    (rests : desk.turn service = .rest) :
    ∃ l, desk.link.line? service.line = some l ∧ l.inbox = [] := by
  unfold turn at rests
  split at rests
  · cases rests
  · split at rests
    · cases rests
    · rename_i l there
      split at rests
      · cases rests
      · rename_i empty
        exact ⟨l, there, empty⟩

/-- Nobody has anything left to do about the frames of a line. -/
theorem ConcurrentRun.handled_all
    (run : ConcurrentRun behave (Stage.opening settings credentials page) past stage) {line : Nat}
    (started : StartedOn line past) (uncancelled : ¬CancelledOn line past)
    (rests : stage.desk.service? line = none ∨
      stage.desk.isBusy (.pump line) = false ∧ stage.desk.isBusy (.service line) = false) :
    takenOn line past = framesOf (beforeFinal (arrivedOn line past)) := by
  have inflow := run.inflow line
  have carries := run.carries line
  have opened := inflow.opened started
  rw [CarriedOn, opened] at carries
  cases found : stage.desk.service? line with
  | none =>
    have gone : ¬stage.desk.HasReader line := by
      rw [stage.desk.hasReader_iff, found]
      simp
    obtain ⟨all, l, there, ended⟩ := inflow.left started uncancelled gone
    rw [all, ((carries.there l there).halted rfl ended).1]
  | some service =>
    rw [found] at rests
    obtain ⟨pumped, idle⟩ := rests.resolve_left (by simp)
    have served : stage.desk.HasReader line := (stage.desk.hasReader_iff line).mpr ⟨service, found⟩
    have resting : stage.desk.turn service = .rest := by
      simpa [Desk.isBusy, found] using idle
    obtain ⟨l, there, empty⟩ := Desk.inbox_of_rest resting
    rw [Desk.line_of_service? found] at there
    have flow := carries.there l there
    have all := flow.held (inflow.held (.inr (.inr served)) l there)
    rw [empty, List.append_nil] at all
    have settled := flow.settled (by simpa [Desk.isBusy, there] using pumped)
    rw [all, settled.1]

/-- A report that is neither a frame nor the end, nor says that the peer is there. -/
def Report.isTrouble : Report → Bool
  | .trouble _ => true
  | _ => false

/-- Trouble that passes does not count. -/
theorem framesOf_untroubled (reports : List Report) :
    framesOf (beforeFinal (reports.filter fun report => !report.isTrouble)) =
      framesOf (beforeFinal reports) := by
  induction reports with
  | nil => rfl
  | cons report rest ih =>
    cases passing : report.isTrouble with
    | true =>
      rw [List.filter_cons_of_neg (by simp [passing]), ih, framesOf_beforeFinal_cons]
      cases report with
      | trouble message => rfl
      | _ => cases passing
    | false =>
      rw [List.filter_cons_of_pos (by simp [passing]), framesOf_beforeFinal_cons,
        framesOf_beforeFinal_cons, ih]

/-- Frames are handled once and in order: those that were read by hand before a service took over
and those that the service has begun to handle are a beginning of the frames that were reported
before the first final report. They are all of these when the service has left without being told
to, or when neither it nor the pump has anything to do. Whatever services begin to handle gets its
verdict, one frame at a time, and the failures among the verdicts are counted. Passing trouble only
leaves the queue. -/
theorem frames_handled_once_in_order
    (run : ConcurrentRun behave (Stage.opening settings credentials page) past stage) (line : Nat) :
    let frames := framesOf (beforeFinal (arrivedOn line past))
    (readByHandOn line past ++ handledOn line past <+: frames) ∧
      (StartedOn line past → ¬CancelledOn line past →
        (stage.desk.service? line = none ∨
          stage.desk.isBusy (.pump line) = false ∧ stage.desk.isBusy (.service line) = false) →
        readByHandOn line past ++ handledOn line past = frames) ∧
      ((handledIn past).length = (verdictsIn past).length + stage.machine.servings ∧
        stage.machine.servings ≤ 1 ∧ (stage.isIdle = true → stage.machine.servings = 0)) ∧
      stage.desk.dropped = ((handledIn past).zip (verdictsIn past)).countP
        (fun judged => judged.2.isFailure) ∧
      (framesOf (beforeFinal ((arrivedOn line past).filter fun report => !report.isTrouble)) =
          frames ∧
        ∀ l message rest, stage.desk.link.line? line = some l → l.pump = .running →
          l.reports = .trouble message :: rest →
            stage.desk.link.pumpLine line =
              stage.desk.link.setLine line { l with reports := rest }) := by
  have inflow := run.inflow line
  have judged := run.judged
  refine ⟨?_, ?_, ⟨judged.judged, judged.single, Stage.servings_of_isIdle⟩, ?_,
    framesOf_untroubled _, ?_⟩
  · rw [← inflow.split]
    cases there : stage.desk.link.line? line with
    | none => simp [((run.carries line).absent there).2.2.1]
    | some l => exact ((run.carries line).there l there).taken_leads
  · intro started uncancelled rests
    rw [← inflow.split]
    exact run.handled_all started uncancelled rests
  · have enough : (verdictsIn past).length ≤ (handledIn past).length := by
      have length := judged.judged
      omega
    have pairs : ((handledIn past).zip (verdictsIn past)).map Prod.snd = verdictsIn past :=
      List.map_snd_zip enough
    rw [judged.dropped, ← pairs, List.countP_map, pairs]
    rfl
  · intro l message rest there running queue
    simp [Link.pumpLine, there, running, queue]

end

def strayResponse : Incoming :=
  { kind := .response, code := 200, content := "[\"\",null,[\"users\"],null,null]" }

def blankUpdate : Incoming := { kind := .update, code := 200, content := "" }

/-- While a service handles a frame the pump goes on, somebody sends a request and time passes. More
comes in behind the end. -/
def frameAfterFrame : List (ConcurrentMove Unit) :=
  [.move (.lay false), .move .dial, .move (.opened (.ok 0)), .move .start,
    .traffic (.report 0 .connected), .traffic (.report 0 (.frame strayResponse)), .traffic (.report 0 (.trouble "noise")),
    .traffic (.report 0 (.frame blankUpdate)), .traffic (.pump 0), .traffic (.pump 0),
    .move (.handle 0), .traffic (.pump 0), .move .work,
    .submit { handler := "rooms.list", target := .named "rooms" }, .advance 10,
    .traffic (.pump 0), .traffic (.report 0 (.closed "gone")),
    .traffic (.report 0 (.frame strayResponse)), .move .work, .move (.handle 0), .move .work,
    .move .work, .traffic (.pump 0), .move (.leave 0)]

theorem frames_handled_once_in_order_after_failure : ∃ past stage,
    ConcurrentRun quiet (Stage.opening {} default ()) past stage ∧ StartedOn 0 past ∧
      ¬CancelledOn 0 past ∧ stage.desk.service? 0 = none ∧
      readByHandOn 0 past ++ handledOn 0 past = [strayResponse, blankUpdate] ∧
      stage.desk.dropped = 1 := by
  have reaches : ((Stage.interleaveAll quiet frameAfterFrame ([], .opening {} default ())).map
      fun reached => (decide (StartedOn 0 reached.1), decide (CancelledOn 0 reached.1),
        reached.2.desk.service? 0, framesOf (beforeFinal (arrivedOn 0 reached.1)),
        reached.2.desk.dropped)) =
        some (true, false, none, [strayResponse, blankUpdate], 1) := by
    decide +kernel
  obtain ⟨⟨past, stage⟩, reached, facts⟩ := Option.map_eq_some_iff.mp reaches
  simp only [Prod.mk.injEq, decide_eq_true_eq, decide_eq_false_iff_not] at facts
  obtain ⟨started, uncancelled, gone, frames, dropped⟩ := facts
  have run : ConcurrentRun quiet (Stage.opening {} default ()) past stage :=
    ConcurrentRun.start.interleaveAll reached
  have handled := (frames_handled_once_in_order run 0).2.1 started uncancelled (.inl gone)
  exact ⟨past, stage, run, started, uncancelled, gone, handled.trans frames, dropped⟩

end PageSession.Exchange
