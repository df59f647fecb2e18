import PageSession.Exchange.Desk

/-!
Who has something to do. A pump has reports to handle; a service has a frame to handle, a deadline
to keep or submissions to take notice of, or it is time for it to leave. The agenda of a desk names
the workers with something to do in the order in which it came up, so that they can be served in
that order.

Models which of the tasks `run` and `pump_events` can go on.
-/
namespace PageSession.Exchange
open Message

/-- What a service does at its next turn. -/
inductive Turn where
  | leave
  | handle (frame : Incoming)
  | expire
  /-- It looks at the deadlines and parks. -/
  | look
  | rest
  deriving DecidableEq

namespace Desk
variable {H W : Type}

/-- A service leaves when it is told to stop or when its line has brought all its frames; it
evicts when its alarm is due, and looks at the deadlines when it is new or notified. -/
def turn (desk : Desk H W) (service : Service) : Turn :=
  if service.stopping then .leave
  else match desk.link.line? service.line with
    | none => .leave
    | some line =>
      match line.inbox with
      | frame :: _ => .handle frame
      | [] =>
        if line.pump = .ended then .leave
        else if service.alarm.any fun alarm => alarm ≤ desk.now then .expire
        else if service.notified || !service.parked then .look
        else .rest

def isBusy (desk : Desk H W) : Worker → Bool
  | .pump line => (desk.link.line? line).any Line.isBusy
  | .service line => (desk.service? line).any fun service => desk.turn service ≠ .rest

/-- All workers: pumps in the order of their lines, then services in the order of their alarms. -/
def workers (desk : Desk H W) : List Worker :=
  (List.range desk.link.lines.length).map .pump ++
    (desk.services.mergeSort fun a b => a.alarm.getD 0 ≤ b.alarm.getD 0).map (.service ·.line)

/-- Puts a worker at the end of the agenda, busy or not, unless it is there. -/
def summon (desk : Desk H W) (worker : Worker) : Desk H W :=
  if desk.agenda.contains worker then desk else { desk with agenda := desk.agenda ++ [worker] }

/-- Workers to whom something new has come up go to the end of the agenda. -/
def enlist (desk : Desk H W) : Desk H W :=
  { desk with agenda := desk.agenda ++
      desk.workers.filter fun worker => desk.isBusy worker && !desk.agenda.contains worker }

/-- Whoever is busy is on the agenda. -/
theorem mem_agenda_enlist {desk : Desk H W} {worker : Worker} (known : worker ∈ desk.workers)
    (busy : desk.isBusy worker = true) : worker ∈ desk.enlist.agenda := by
  by_cases listed : worker ∈ desk.agenda
  · exact List.mem_append_left _ listed
  · exact List.mem_append_right _ (List.mem_filter.mpr ⟨known, by simp [busy, listed]⟩)

end Desk
end PageSession.Exchange
