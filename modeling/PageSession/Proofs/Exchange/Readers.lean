import PageSession.Proofs.Exchange.ConcurrentRun

/-!
Who reads which line. A line that was opened is read by hand until a service takes over, and the
service reads it until it leaves. Nothing but connecting, starting a service and leaving changes
who reads.
-/
namespace PageSession.Exchange
open Json Message

def Desk.HasReader {H W : Type} (desk : Desk H W) (line : Nat) : Prop :=
  line ∈ desk.services.map Service.line

namespace Desk
variable {H W : Type}

theorem hasReader_iff (desk : Desk H W) (line : Nat) :
    desk.HasReader line ↔ ∃ service, desk.service? line = some service := by
  unfold HasReader service?
  rw [← Option.isSome_iff_exists, List.find?_isSome]
  simp

theorem map_line_unpark (desk : Desk H W) (service : Service) :
    (desk.unpark service).services.map Service.line = desk.services.map Service.line := by
  unfold unpark
  dsimp only
  split
  · rw [map_line_notifyService, map_line_setService]
  · exact map_line_setService desk _

theorem map_line_submit (desk : Desk H W) (s : Submission H) :
    (desk.submit s).2.services.map Service.line = desk.services.map Service.line := by
  obtain ⟨id, ids, made⟩ := desk.addressed_desk s
  rcases desk.submit_steady s with ⟨-, steady⟩ | ⟨name, -, -, steady⟩
  · rw [steady.services, made]
  · rw [steady.services, map_line_notifyService, made]

theorem hasReader_removeService (desk : Desk H W) (line other : Nat) :
    (desk.removeService line).HasReader other ↔ desk.HasReader other ∧ other ≠ line := by
  simp only [HasReader, removeService, List.mem_map, List.mem_filter, decide_eq_true_eq]
  constructor
  · rintro ⟨service, ⟨member, different⟩, rfl⟩
    exact ⟨⟨service, member, rfl⟩, different⟩
  · rintro ⟨⟨service, member, rfl⟩, different⟩
    exact ⟨service, ⟨member, different⟩, rfl⟩

theorem hasReader_lull {desk : Desk H W} {service : Service} {line : Nat}
    (found : desk.service? line = some service) (alarm : Option Nat) (other : Nat) :
    (desk.lull service alarm).HasReader other ↔ desk.HasReader other := by
  have own : service.line = line := line_of_service? found
  have reads : desk.HasReader line := (desk.hasReader_iff line).mpr ⟨service, found⟩
  have others := desk.hasReader_removeService service.line other
  unfold HasReader at others reads ⊢
  rw [lull, List.map_append, List.mem_append, others, own]
  by_cases same : other = line
  · simp [same, reads]
  · simp [same]

theorem hasReader_of_map {desk after : Desk H W}
    (same : after.services.map Service.line = desk.services.map Service.line) (line : Nat) :
    after.HasReader line ↔ desk.HasReader line := by
  rw [HasReader, HasReader, same]

theorem opened_services (desk : Desk H W) (outcome : Except String Nat) :
    (desk.opened outcome).2.services = desk.services := by
  obtain ⟨link, stream, agenda, same⟩ := desk.opened_desk outcome
  rw [same]

/-- Connecting changes what is read by hand if it succeeds, -/
theorem stream_of_opened {desk : Desk H W} {line : Nat}
    (success : (desk.opened (.ok line)).1 = .ok ()) :
    (desk.opened (.ok line)).2.stream = some line := by
  unfold opened at success ⊢
  cases attempt : desk.link.conclude (.ok line) with
  | mk result link =>
    rw [attempt] at success
    cases result with
    | error failure => cases success
    | ok done => exact summon_stream _ _

/-- and only then. -/
theorem stream_of_not_opened {desk : Desk H W} {outcome : Except String Nat}
    (failed : (desk.opened outcome).1 ≠ .ok ()) :
    (desk.opened outcome).2.stream = desk.stream := by
  unfold opened at failed ⊢
  split at failed
  · exact absurd rfl failed
  · rfl

end Desk

namespace Stage
variable {H W : Type}

/-- What a move does to those who read lines. -/
inductive Reads (stage : Stage H W) : ConcurrentMove H → Stage H W → Prop
  /-- A line is opened and read by hand from now on. -/
  | opens (line : Nat) (after : Stage H W) (unused : stage.desk.isUnused line = true)
      (success : (stage.desk.opened (.ok line)).1 = .ok ())
      (stream : after.desk.stream = some line)
      (readers : ∀ other, after.desk.HasReader other ↔ stage.desk.HasReader other) :
      Reads stage (.move (.opened (.ok line))) after
  /-- A service takes over. -/
  | starts (line : Nat) (after : Stage H W) (byHand : stage.desk.stream = some line)
      (stream : after.desk.stream = none)
      (readers : ∀ other, after.desk.HasReader other ↔ stage.desk.HasReader other ∨ other = line) :
      Reads stage (.move .start) after
  /-- A service leaves. -/
  | leaves (line : Nat) (after : Stage H W) (service : Service)
      (found : stage.desk.service? line = some service)
      (ready : (service.stopping || stage.desk.isDrained line) = true)
      (stream : after.desk.stream = stage.desk.stream)
      (readers : ∀ other, after.desk.HasReader other ↔ stage.desk.HasReader other ∧ other ≠ line) :
      Reads stage (.move (.leave line)) after
  | same (move : ConcurrentMove H) (after : Stage H W)
      (stream : after.desk.stream = stage.desk.stream)
      (readers : ∀ other, after.desk.HasReader other ↔ stage.desk.HasReader other)
      (stays : move ≠ .move .start ∧ ∀ line, move ≠ .move (.leave line))
      (unopened : ∀ line, move = .move (.opened (.ok line)) →
        (stage.desk.opened (.ok line)).1 ≠ .ok ()) :
      Reads stage move after

theorem reads_interleave {behave : Behaviour H W} {stage after : Stage H W}
    {move : ConcurrentMove H} (made : stage.interleave behave move = some after) :
    stage.Reads move after := by
  cases move with
  | submit s =>
    cases made
    exact .same _ _ (stage.desk.passes_submit s).stream
      (Desk.hasReader_of_map (stage.desk.map_line_submit s)) (by simp) (by simp)
  | traffic traffic =>
    simp only [Stage.interleave] at made
    split at made
    · cases made
      exact .same _ _ rfl (fun _ => .rfl) (by simp) (by simp)
    · cases made
  | advance ms =>
    cases made
    exact .same _ _ rfl (fun _ => .rfl) (by simp) (by simp)
  | move move =>
    cases moved_of_next made with
    | worked =>
      exact .same _ _ (Machine.passes_step behave stage.machine).2.1
        (Desk.hasReader_of_map (Machine.map_line_step behave stage.machine)) (by simp) (by simp)
    | exchanged => exact .same _ _ rfl (fun _ => .rfl) (by simp) (by simp)
    | begun _ _ _ _ begun =>
      cases begins_of_begin begun with
      | act | pump | report | lay | dial | advance | schedule | aim =>
        exact .same _ _ rfl (fun _ => .rfl) (by simp) (by simp)
      | start line byHand =>
        refine .starts line _ byHand rfl fun other => ?_
        show other ∈ (stage.desk.services ++ [_]).map Service.line ↔ _
        simp [Desk.HasReader]
      | handle line service frame taken found received =>
        obtain ⟨link, rfl⟩ := Desk.takeNext?_desk received
        have awake := Desk.passes_unpark { stage.desk with link } service
        exact .same _ _ awake.stream
          (Desk.hasReader_of_map (Desk.map_line_unpark { stage.desk with link } service))
          (by simp) (by simp)
      | expire line service found due =>
        exact .same _ _ (stage.desk.passes_unpark service).stream
          (Desk.hasReader_of_map (stage.desk.map_line_unpark service)) (by simp) (by simp)
      | wake line service found notified =>
        exact .same _ _ rfl (Desk.hasReader_of_map (stage.desk.map_line_setService _))
          (by simp) (by simp)
      | sleep line service alarm found aim awake =>
        exact .same _ _ rfl (Desk.hasReader_lull found alarm) (by simp) (by simp)
      | leave line service found ready =>
        have same : service.line = line := Desk.line_of_service? found
        obtain ⟨link, released⟩ := (stage.desk.dismiss service).release_desk line
        refine .leaves line _ service found ready ?_ fun other => ?_
        · show ((stage.desk.dismiss service).release line).stream = _
          rw [released]
          exact (stage.desk.passes_unpark service).stream
        · show ((stage.desk.dismiss service).release line).HasReader other ↔ _
          rw [released, ← same,
            ← Desk.hasReader_of_map (stage.desk.map_line_unpark service) other]
          exact (stage.desk.unpark service).hasReader_removeService service.line other
      | opened outcome unused =>
        have readers : ∀ other, (stage.desk.opened outcome).2.HasReader other ↔
            stage.desk.HasReader other :=
          Desk.hasReader_of_map (by rw [Desk.opened_services])
        by_cases success : (stage.desk.opened outcome).1 = .ok ()
        · cases outcome with
          | error reason => cases success
          | ok line =>
            exact .opens line _ (unused line rfl) success (Desk.stream_of_opened success) readers
        · refine .same _ _ (Desk.stream_of_not_opened success) readers (by simp) ?_
          intro line same
          cases same
          exact success

end Stage

end PageSession.Exchange
