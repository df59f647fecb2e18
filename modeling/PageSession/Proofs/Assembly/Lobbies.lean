import PageSession.Proofs.Assembly.Loads

/-!
A roster that many use at once. A registration files its module first and moves the generation on
afterwards; whoever waits for a name notes the generation, then looks, and then sleeps until the
generation is another one. All these are separate steps, and anything may happen between them.
A module that has been filed stays, its name is in the list of names, and when nobody can go on,
exactly those have come to an end whose name is registered.
-/
namespace PageSession.Assembly
open Page

variable {M : Type}

/-! ## Registrations -/

namespace Roster

/-- A name that is free is registered; one that is taken is refused, and no roster comes of it. -/
theorem register_cases (roster : Roster M) (m : Module M) :
    (roster.contains m.name = false ∧ roster.register m =
        .ok { modules := roster.modules.insert m.name m, generation := roster.generation + 1 }) ∨
      (roster.contains m.name = true ∧ roster.register m = .error (.alreadyRegistered m.name)) := by
  unfold register contains
  cases taken : roster.modules.contains m.name with
  | false => exact .inl ⟨rfl, rfl⟩
  | true => exact .inr ⟨rfl, rfl⟩

/-- The names come in strictly increasing order. -/
theorem names_pairwise (roster : Roster M) : roster.names.Pairwise fun a b => a < b := by
  have distinct : (roster.modules.keys.map id).Nodup := by
    rw [List.map_id]
    exact roster.modules.distinct
  exact Table.pairwise_mergeSort id distinct

theorem mem_names_iff (roster : Roster M) (name : String) :
    name ∈ roster.names ↔ roster.contains name = true := by
  simp [names, contains, Table.contains_iff_mem_keys]

end Roster

theorem Roster.resolve_eq_ok_iff (roster : Roster M) (name : String) (m : Module M) :
    roster.resolve name = .ok m ↔ roster.modules.find? name = some m := by
  unfold resolve
  cases roster.modules.find? name <;> simp

theorem Roster.resolve_eq_error_iff (roster : Roster M) (name : String) :
    roster.resolve name = .error (.notFound name) ↔ roster.modules.find? name = none := by
  unfold resolve
  cases roster.modules.find? name <;> simp

theorem Roster.await_eq_none_iff (roster : Roster M) (name : String) :
    roster.await name = none ↔ roster.contains name = true := by
  unfold await
  split <;> simp [*]

theorem Waiter.isWoken_eq_false_iff (waiter : Waiter) (roster : Roster M) :
    waiter.isWoken roster = false ↔ waiter.seen = roster.generation := by
  simp [isWoken]

/-! ## A roster in use -/

/-- What somebody who waits for a name does next, or that there is nothing left to do. -/
inductive Stage where
  | looking | asleep | finished
  deriving DecidableEq, Repr

/-- One wait for a name. -/
structure Wait where
  waiter : Waiter
  stage : Stage := .looking
  deriving DecidableEq, Repr

namespace Wait

def look (roster : Roster M) (wait : Wait) : Wait :=
  match wait.stage with
  | .looking =>
    match roster.await wait.waiter.name with
    | none => { wait with stage := .finished }
    | some _ => { wait with stage := .asleep }
  | .asleep | .finished => wait

/-- Whoever sleeps and notices another generation notes it and is about to look again. -/
def wake (roster : Roster M) (wait : Wait) : Wait :=
  match wait.stage with
  | .asleep =>
    if wait.waiter.isWoken roster then
      { waiter := { wait.waiter with seen := roster.generation }, stage := .looking }
    else wait
  | .looking | .finished => wait

/-- There is nothing left to do, or nothing new since the last look. -/
def AtRest (roster : Roster M) (wait : Wait) : Prop :=
  wait.stage = .finished ∨ (wait.stage = .asleep ∧ wait.waiter.isWoken roster = false)

instance (roster : Roster M) (wait : Wait) : Decidable (wait.AtRest roster) :=
  inferInstanceAs (Decidable (_ ∨ _))

end Wait

/-- A roster with all who use it. -/
structure Lobby (M : Type) where
  roster : Roster M := {}
  /-- The modules whose registration has succeeded, the latest last. -/
  registered : List (Module M) := []
  /-- How many of them have been filed without the generation having moved on for them. -/
  unannounced : Nat := 0
  waits : List Wait := []

/-- One step of a registration or of a wait. -/
inductive RosterStep (M : Type) where
  /-- A registration begins: its module is filed, or it is refused. -/
  | file (m : Module M)
  /-- A registration ends: the generation moves on. -/
  | announce
  /-- A wait begins: the generation is noted. -/
  | arrive (name : String)
  | look (index : Nat)
  | wake (index : Nat)

namespace RosterStep

/-- Nothing new begins. -/
def goesOn : RosterStep M → Bool
  | .file _ | .arrive _ => false
  | .announce | .look _ | .wake _ => true

def attempt? : RosterStep M → Option (Module M)
  | .file m => some m
  | .announce | .arrive _ | .look _ | .wake _ => none

def arrival? : RosterStep M → Option String
  | .arrive name => some name
  | .file _ | .announce | .look _ | .wake _ => none

end RosterStep

namespace Lobby

def file (lobby : Lobby M) (m : Module M) : Lobby M :=
  match lobby.roster.register m with
  | .ok roster =>
    { lobby with
      roster := { roster with generation := lobby.roster.generation }
      registered := lobby.registered ++ [m]
      unannounced := lobby.unannounced + 1 }
  | .error _ => lobby

def announce (lobby : Lobby M) : Lobby M :=
  if lobby.unannounced = 0 then lobby
  else
    { lobby with
      roster := { lobby.roster with generation := lobby.roster.generation + 1 }
      unannounced := lobby.unannounced - 1 }

def after (lobby : Lobby M) : RosterStep M → Lobby M
  | .file m => lobby.file m
  | .announce => lobby.announce
  | .arrive name =>
    { lobby with waits := lobby.waits ++ [{ waiter := { name, seen := lobby.roster.generation } }] }
  | .look index => { lobby with waits := lobby.waits.modify index (Wait.look lobby.roster) }
  | .wake index => { lobby with waits := lobby.waits.modify index (Wait.wake lobby.roster) }

def run (lobby : Lobby M) (steps : List (RosterStep M)) : Lobby M := steps.foldl after lobby

/-- Nobody can go on. -/
def IsIdle (lobby : Lobby M) : Prop :=
  lobby.unannounced = 0 ∧ ∀ wait ∈ lobby.waits, wait.AtRest lobby.roster

instance (lobby : Lobby M) : Decidable lobby.IsIdle := inferInstanceAs (Decidable (_ ∧ _))

theorem run_append (lobby : Lobby M) (steps later : List (RosterStep M)) :
    lobby.run (steps ++ later) = (lobby.run steps).run later :=
  List.foldl_append

/-- A registration that nobody comes between is that of the roster. -/
theorem run_file_announce (lobby : Lobby M) {m : Module M} {after : Roster M}
    (success : lobby.roster.register m = .ok after) :
    (lobby.run [.file m, .announce]).roster = after := by
  rcases lobby.roster.register_cases m with ⟨-, filed⟩ | ⟨-, refused⟩
  · cases success.symm.trans filed
    simp [run, Lobby.after, file, announce, filed]
  · cases success.symm.trans refused

/-- And so is the first look of somebody who waits. -/
theorem run_arrive_look (lobby : Lobby M) (name : String) :
    (lobby.run [.arrive name, .look lobby.waits.length]).waits = lobby.waits ++
      [match lobby.roster.await name with
        | none => { waiter := { name, seen := lobby.roster.generation }, stage := .finished }
        | some waiter => { waiter, stage := .asleep }] := by
  cases there : lobby.roster.contains name <;>
    simp [run, after, Wait.look, Roster.await, there, List.modify_eq_take_drop]

/-! ## What every step keeps -/

/-- What is known of a wait. -/
structure Fits (lobby : Lobby M) (wait : Wait) : Prop where
  seen : wait.waiter.seen ≤ lobby.roster.generation
  finished : wait.stage = .finished → lobby.roster.contains wait.waiter.name = true
  /-- Nobody sleeps through a registration. -/
  asleep : wait.stage = .asleep → lobby.roster.contains wait.waiter.name = true →
    wait.waiter.seen < lobby.roster.generation ∨ 0 < lobby.unannounced

/-- The registrations tell what is on the roster and how far it is, and the waits fit. -/
structure Accords (lobby : Lobby M) : Prop where
  found : ∀ name, lobby.roster.modules.find? name =
    lobby.registered.find? fun m => m.name == name
  counted : lobby.roster.generation + lobby.unannounced = lobby.registered.length
  fits : ∀ wait ∈ lobby.waits, lobby.Fits wait

variable {lobby : Lobby M}

theorem Fits.look {wait : Wait} (fits : lobby.Fits wait) :
    lobby.Fits (wait.look lobby.roster) := by
  unfold Wait.look
  cases stage : wait.stage with
  | asleep | finished => exact fits
  | looking =>
    cases found : lobby.roster.await wait.waiter.name with
    | none =>
      rw [Roster.await_eq_none_iff] at found
      exact ⟨fits.seen, fun _ => found, fun impossible => by cases impossible⟩
    | some waiter =>
      refine ⟨fits.seen, fun impossible => ?_, fun _ there => ?_⟩
      · cases impossible
      · rw [← Roster.await_eq_none_iff, found] at there
        cases there

theorem Fits.wake {wait : Wait} (fits : lobby.Fits wait) :
    lobby.Fits (wait.wake lobby.roster) := by
  unfold Wait.wake
  cases stage : wait.stage with
  | looking | finished => exact fits
  | asleep =>
    dsimp only
    split
    · exact ⟨Nat.le_refl _, nofun, nofun⟩
    · exact fits

/-- One wait goes on in a way that keeps what is known of it. -/
theorem Accords.modify (accords : lobby.Accords) (index : Nat) {go : Wait → Wait}
    (keeps : ∀ wait, lobby.Fits wait → lobby.Fits (go wait)) :
    Accords { lobby with waits := lobby.waits.modify index go } where
  found := accords.found
  counted := accords.counted
  fits wait listed := by
    obtain ⟨other, here⟩ := List.mem_iff_getElem?.mp listed
    rw [List.getElem?_modify] at here
    obtain ⟨earlier, there, rfl⟩ := Option.map_eq_some_iff.mp here
    have fits := accords.fits earlier (List.mem_of_getElem? there)
    by_cases same : index = other
    · simp only [same, if_true]
      have kept := keeps earlier fits
      exact ⟨kept.seen, kept.finished, kept.asleep⟩
    · simp only [same, if_false]
      exact ⟨fits.seen, fits.finished, fits.asleep⟩

theorem Accords.file (accords : lobby.Accords) (m : Module M) : (lobby.file m).Accords := by
  rcases lobby.roster.register_cases m with ⟨free, filed⟩ | ⟨-, refused⟩
  · have absent : lobby.registered.find? (fun other => other.name == m.name) = none := by
      rw [← accords.found]
      exact (Table.contains_eq_false_iff _ _).mp free
    have more : ∀ {name}, lobby.roster.contains name = true → _ :=
      @Roster.contains_of_register _ _ _ _ filed
    simp only [Lobby.file, filed]
    constructor
    · intro name
      simp only [Table.find?_insert, List.find?_append, accords.found]
      by_cases same : name = m.name
      · subst same
        simp [absent]
      · simp [same, Ne.symm same]
    · have counted := accords.counted
      simp only [List.length_append, List.length_singleton]
      omega
    · intro wait listed
      have before := accords.fits wait listed
      exact ⟨before.seen, fun done => more (before.finished done), fun _ _ => .inr (Nat.succ_pos _)⟩
  · simpa only [Lobby.file, refused] using accords

theorem Accords.announce (accords : lobby.Accords) : lobby.announce.Accords := by
  unfold Lobby.announce
  split
  · exact accords
  · rename_i underway
    constructor
    · exact accords.found
    · have counted := accords.counted
      dsimp only
      omega
    · intro wait listed
      have before := accords.fits wait listed
      exact ⟨Nat.le_succ_of_le before.seen, before.finished,
        fun _ _ => .inl (Nat.lt_succ_of_le before.seen)⟩

theorem Accords.after (accords : lobby.Accords) (step : RosterStep M) :
    (lobby.after step).Accords := by
  cases step with
  | file m => exact accords.file m
  | announce => exact accords.announce
  | look index => exact accords.modify index fun _ fits => fits.look
  | wake index => exact accords.modify index fun _ fits => fits.wake
  | arrive name =>
    refine ⟨accords.found, accords.counted, fun wait listed => ?_⟩
    rcases List.mem_append.mp listed with earlier | new
    · have before := accords.fits wait earlier
      exact ⟨before.seen, before.finished, before.asleep⟩
    · cases List.mem_singleton.mp new
      exact ⟨Nat.le_refl _, nofun, nofun⟩

theorem Accords.run (accords : lobby.Accords) (steps : List (RosterStep M)) :
    (lobby.run steps).Accords := by
  induction steps generalizing lobby with
  | nil => exact accords
  | cons step rest ih => exact ih (accords.after step)

theorem accords_empty : ({} : Lobby M).Accords where
  found _ := rfl
  counted := rfl
  fits := nofun

/-! ## Registrations stay -/

/-- What is registered under a name is what somebody has first attempted to register under it. -/
theorem find?_registered_after (accords : lobby.Accords) (step : RosterStep M) (name : String) :
    (lobby.after step).registered.find? (fun m => m.name == name) =
      (lobby.registered ++ step.attempt?.toList).find? fun m => m.name == name := by
  cases step with
  | file m =>
    rcases lobby.roster.register_cases m with ⟨-, filed⟩ | ⟨taken, refused⟩
    · simp [after, file, filed, RosterStep.attempt?]
    · have known : (lobby.registered.find? fun other => other.name == m.name).isSome = true := by
        rw [← accords.found, ← Table.contains_eq_isSome]
        exact taken
      by_cases same : m.name = name
      · subst same
        simp [after, file, refused, RosterStep.attempt?, List.find?_append,
          Option.or_of_isSome known]
      · simp [after, file, refused, RosterStep.attempt?, List.find?_append, same]
  | announce =>
    have kept : lobby.announce.registered = lobby.registered := by
      unfold announce
      split <;> rfl
    simp [after, kept, RosterStep.attempt?]
  | arrive | look | wake => simp [after, RosterStep.attempt?]

theorem find?_registered_run (accords : lobby.Accords) (steps : List (RosterStep M))
    (name : String) :
    (lobby.run steps).registered.find? (fun m => m.name == name) =
      (lobby.registered ++ steps.filterMap RosterStep.attempt?).find? fun m => m.name == name := by
  induction steps generalizing lobby with
  | nil => simp [run]
  | cons step rest ih =>
    have later := ih (accords.after step)
    have first := find?_registered_after accords step name
    show ((lobby.after step).run rest).registered.find? _ = _
    rw [later, List.find?_append, first, ← List.find?_append, List.append_assoc]
    cases attempt : step.attempt? <;> simp [attempt]

/-- A name is resolved to the module that was first attempted to be registered under it. -/
theorem find?_run_empty (steps : List (RosterStep M)) (name : String) :
    (({} : Lobby M).run steps).roster.modules.find? name =
      (steps.filterMap RosterStep.attempt?).find? fun m => m.name == name := by
  rw [(accords_empty.run steps).found, find?_registered_run accords_empty]
  rfl

/-- What is resolved stays so, whatever comes later. -/
theorem Accords.find?_run (accords : lobby.Accords) (later : List (RosterStep M)) {name : String}
    {m : Module M} (found : lobby.roster.modules.find? name = some m) :
    (lobby.run later).roster.modules.find? name = some m := by
  rw [accords.found] at found
  rw [(accords.run later).found, find?_registered_run accords, List.find?_append, found]
  rfl

/-! ## Idle points -/

/-- When nobody can go on, whoever waits has come to an end exactly if the name is registered. -/
theorem Accords.finished_iff (accords : lobby.Accords) (idle : lobby.IsIdle) {wait : Wait}
    (listed : wait ∈ lobby.waits) :
    wait.stage = .finished ↔ lobby.roster.contains wait.waiter.name = true := by
  have fits := accords.fits wait listed
  constructor
  · exact fits.finished
  · intro registered
    rcases idle.2 wait listed with done | ⟨asleep, quiet⟩
    · exact done
    · rw [Waiter.isWoken_eq_false_iff] at quiet
      have announced := idle.1
      rcases fits.asleep asleep registered with missed | underway <;> omega

/-- Whoever looks, notices what is new, and looks again, is at rest. -/
theorem atRest_attended (roster : Roster M) (wait : Wait) :
    (((wait.look roster).wake roster).look roster).AtRest roster := by
  obtain ⟨waiter, stage⟩ := wait
  have current : ({ name := waiter.name, seen := roster.generation } : Waiter).isWoken roster =
      false := by
    simp [Waiter.isWoken]
  cases there : roster.contains waiter.name <;> cases woken : waiter.isWoken roster <;>
    cases stage <;>
    simp [Wait.look, Wait.wake, Wait.AtRest, Roster.await, there, woken, current]

/-- Registrations come to their end. -/
theorem exists_announced (lobby : Lobby M) :
    ∃ rest : List (RosterStep M), (∀ step ∈ rest, step.goesOn = true) ∧
      (lobby.run rest).unannounced = 0 := by
  induction underway : lobby.unannounced generalizing lobby with
  | zero => exact ⟨[], nofun, underway⟩
  | succ count ih =>
    have fewer : lobby.announce.unannounced = count := by simp [announce, underway]
    obtain ⟨rest, going, none⟩ := ih lobby.announce fewer
    refine ⟨.announce :: rest, ?_, none⟩
    intro step listed
    rcases List.mem_cons.mp listed with rfl | later
    · rfl
    · exact going step later

/-- Everybody who waits comes to rest, one after the other. -/
theorem exists_attended (lobby : Lobby M) (count : Nat) :
    ∃ rest : List (RosterStep M), (∀ step ∈ rest, step.goesOn = true) ∧
      (lobby.run rest).unannounced = lobby.unannounced ∧ (lobby.run rest).roster = lobby.roster ∧
      (lobby.run rest).waits.length = lobby.waits.length ∧
      ∀ index < count, ∀ wait, (lobby.run rest).waits[index]? = some wait →
        wait.AtRest lobby.roster := by
  induction count with
  | zero => exact ⟨[], nofun, rfl, rfl, rfl, nofun⟩
  | succ count ih =>
    obtain ⟨rest, going, announced, same, counted, resting⟩ := ih
    refine ⟨rest ++ [.look count, .wake count, .look count], ?_, ?_⟩
    · intro step listed
      rcases List.mem_append.mp listed with earlier | last
      · exact going step earlier
      · simp only [List.mem_cons, List.not_mem_nil, or_false] at last
        rcases last with rfl | rfl | rfl <;> rfl
    · rw [run_append]
      refine ⟨announced, same, ?_, fun index bound wait here => ?_⟩
      · simpa [run, after] using counted
      · simp only [run, List.foldl_cons, List.foldl_nil, after, List.getElem?_modify] at here
        change Option.map _ (Option.map _ (Option.map _ ((lobby.run rest).waits[index]?))) = _
          at here
        by_cases last : count = index
        · simp only [last, if_true, Option.map_map] at here
          obtain ⟨earlier, -, rfl⟩ := Option.map_eq_some_iff.mp here
          rw [← same]
          exact atRest_attended _ earlier
        · simp only [last, if_false, Option.map_id'] at here
          exact resting index (by omega) wait here

/-- Those who can go on may do so until nobody can. -/
theorem exists_idle (lobby : Lobby M) :
    ∃ rest : List (RosterStep M), (∀ step ∈ rest, step.goesOn = true) ∧
      (lobby.run rest).IsIdle := by
  obtain ⟨first, going, announced⟩ := lobby.exists_announced
  obtain ⟨second, going', unchanged, same, counted, resting⟩ :=
    (lobby.run first).exists_attended (lobby.run first).waits.length
  refine ⟨first ++ second, ?_, ?_⟩
  · intro step listed
    rcases List.mem_append.mp listed with earlier | later
    · exact going step earlier
    · exact going' step later
  · rw [run_append]
    refine ⟨unchanged.trans announced, fun wait listed => ?_⟩
    obtain ⟨index, bound, here⟩ := List.mem_iff_getElem.mp listed
    rw [same]
    apply resting index (by omega) wait
    rw [← here]
    exact List.getElem?_eq_getElem bound

/-- Whoever has begun to wait is still there. -/
theorem names_waits_after (lobby : Lobby M) (step : RosterStep M) :
    (lobby.after step).waits.map (fun wait => wait.waiter.name) =
      lobby.waits.map (fun wait => wait.waiter.name) ++ step.arrival?.toList := by
  have modified : ∀ (index : Nat) (go : Wait → Wait),
      (∀ wait, (go wait).waiter.name = wait.waiter.name) →
      (lobby.waits.modify index go).map (fun wait => wait.waiter.name) =
        lobby.waits.map fun wait => wait.waiter.name := by
    intro index go same
    apply List.ext_getElem?
    intro other
    simp only [List.getElem?_map, List.getElem?_modify]
    cases lobby.waits[other]? with
    | none => rfl
    | some wait => by_cases here : index = other <;> simp [here, same]
  cases step with
  | file m =>
    rcases lobby.roster.register_cases m with ⟨-, filed⟩ | ⟨-, refused⟩
    · simp [after, file, filed, RosterStep.arrival?]
    · simp [after, file, refused, RosterStep.arrival?]
  | announce =>
    have kept : lobby.announce.waits = lobby.waits := by
      unfold announce
      split <;> rfl
    simp [after, kept, RosterStep.arrival?]
  | arrive name => simp [after, RosterStep.arrival?]
  | look index =>
    have same : ∀ wait : Wait, (wait.look lobby.roster).waiter.name = wait.waiter.name := by
      intro wait
      unfold Wait.look
      split
      · split <;> rfl
      · rfl
      · rfl
    simp [after, modified index _ same, RosterStep.arrival?]
  | wake index =>
    have same : ∀ wait : Wait, (wait.wake lobby.roster).waiter.name = wait.waiter.name := by
      intro wait
      unfold Wait.wake
      split
      · split <;> rfl
      · rfl
      · rfl
    simp [after, modified index _ same, RosterStep.arrival?]

theorem names_waits_run (lobby : Lobby M) (steps : List (RosterStep M)) :
    (lobby.run steps).waits.map (fun wait => wait.waiter.name) =
      lobby.waits.map (fun wait => wait.waiter.name) ++ steps.filterMap RosterStep.arrival? := by
  induction steps generalizing lobby with
  | nil => simp [run]
  | cons step rest ih =>
    show ((lobby.after step).run rest).waits.map _ = _
    rw [ih, names_waits_after, List.append_assoc]
    cases arrival : step.arrival? <;> simp [arrival]

/-! ## All orders -/

/-- Whatever is registered and whoever waits, in whatever order: the roster resolves a name to the
module with which it was first attempted to register it, and does so for good. An attempt that is
refused changes nothing. The generation counts the registrations that have come to an end, the names
are in strictly increasing order, and when nobody can go on, exactly those waits have come to an end
whose name is registered. -/
theorem waits_end_with_registration (steps : List (RosterStep M)) :
    let lobby := ({} : Lobby M).run steps
    let attempts := steps.filterMap RosterStep.attempt?
    (∀ name, lobby.roster.resolve name =
        match attempts.find? fun m => m.name == name with
        | some m => .ok m
        | none => .error (.notFound name)) ∧
      (∀ later name m, lobby.roster.resolve name = .ok m →
        (lobby.run later).roster.resolve name = .ok m) ∧
      (∀ m failure, lobby.roster.register m = .error failure →
        failure = .alreadyRegistered m.name ∧ lobby.roster.contains m.name = true ∧
          lobby.after (.file m) = lobby) ∧
      (∀ m after, lobby.roster.register m = .ok after →
        (lobby.run [.file m, .announce]).roster = after ∧
          (lobby.run [.file m, .announce]).registered = lobby.registered ++ [m]) ∧
      lobby.roster.generation + lobby.unannounced = lobby.registered.length ∧
      lobby.roster.names.Pairwise (fun a b => a < b) ∧
      (∀ name, name ∈ lobby.roster.names ↔ ∃ m ∈ attempts, m.name = name) ∧
      lobby.waits.map (fun wait => wait.waiter.name) = steps.filterMap RosterStep.arrival? ∧
      (lobby.IsIdle → ∀ wait ∈ lobby.waits,
        wait.stage = .finished ↔ lobby.roster.contains wait.waiter.name = true) ∧
      ∃ rest : List (RosterStep M), (∀ step ∈ rest, step.goesOn = true) ∧
        (lobby.run rest).IsIdle := by
  intro lobby attempts
  have accords : lobby.Accords := accords_empty.run steps
  have first : ∀ name, lobby.roster.modules.find? name =
      attempts.find? fun m => m.name == name := find?_run_empty steps
  refine ⟨?_, ?_, ?_, ?_, accords.counted, lobby.roster.names_pairwise, ?_, ?_, ?_,
    lobby.exists_idle⟩
  · intro name
    split
    · rename_i m found
      rw [Roster.resolve_eq_ok_iff, first, found]
    · rename_i absent
      rw [Roster.resolve_eq_error_iff, first, absent]
  · intro later name m resolved
    rw [Roster.resolve_eq_ok_iff] at resolved ⊢
    exact accords.find?_run later resolved
  · intro m failure refused
    rcases lobby.roster.register_cases m with ⟨-, filed⟩ | ⟨taken, same⟩
    · cases refused.symm.trans filed
    · cases refused.symm.trans same
      exact ⟨rfl, taken, by simp [after, file, refused]⟩
  · intro m after success
    refine ⟨lobby.run_file_announce success, ?_⟩
    simp [run, Lobby.after, file, announce, success]
  · intro name
    rw [Roster.mem_names_iff, Roster.contains, Table.contains_eq_isSome, first,
      List.find?_isSome]
    simp
  · exact names_waits_run {} steps
  · intro idle wait listed
    exact accords.finished_iff idle listed

/-- Somebody waits for a name that is registered late, among others; somebody else waits for a name
that is never registered. -/
def lateArrivals : List (RosterStep String) :=
  [.arrive "late", .look 0, .file { name := "other", body := "first" }, .arrive "never", .look 1,
    .announce, .wake 0, .file { name := "late", body := "second" }, .wake 1, .look 0, .look 1,
    .file { name := "late", body := "third" }, .announce, .wake 1, .look 1]

theorem waits_end_with_registration_late :
    let lobby := ({} : Lobby String).run lateArrivals
    lobby.IsIdle ∧ lobby.roster.generation = 2 ∧
      lobby.waits.map (fun wait => (wait.waiter.name, wait.stage)) =
        [("late", .finished), ("never", .asleep)] ∧
      ∀ wait ∈ lobby.waits,
        wait.stage = .finished ↔ lobby.roster.contains wait.waiter.name = true := by
  have idle : (({} : Lobby String).run lateArrivals).IsIdle := by decide +kernel
  obtain ⟨-, -, -, -, -, -, -, -, ended, -⟩ := waits_end_with_registration lateArrivals
  exact ⟨idle, by decide +kernel, by decide +kernel, ended idle⟩

end Lobby
end PageSession.Assembly
