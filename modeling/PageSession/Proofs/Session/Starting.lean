import PageSession.Proofs.Session.Furnishing

/-!
When a session starts. What can keep it from starting is read off its configuration and its dialer:
credentials, the connection, resources that cannot be loaded together, and paths that do not find
their module or their area. Nothing else does, whatever order the loads take their turns in.
-/
namespace PageSession

namespace Exchange

/-- All credentials are there exactly when none of the five is missing or empty. -/
theorem Credentials.ofStore_ok_iff (store : String → Option String) :
    (∃ credentials, Credentials.ofStore store = .ok credentials) ↔
      ∀ key : CredentialKey, ∃ value, store key.name = some value ∧ value ≠ "" := by
  have found (key : CredentialKey) : (∃ value, Credentials.lookup store key = .ok value) ↔
      ∃ value, store key.name = some value ∧ value ≠ "" := by
    unfold Credentials.lookup
    cases store key.name with
    | none => simp
    | some value => by_cases empty : value = "" <;> simp [empty]
  simp only [← found]
  constructor
  · rintro ⟨credentials, read⟩
    simp only [ofStore, bind, Except.bind] at read
    split at read
    · cases read
    rename_i endpoint
    split at read
    · cases read
    rename_i identity
    split at read
    · cases read
    rename_i token
    split at read
    · cases read
    rename_i session
    split at read
    · cases read
    rename_i group
    intro key
    cases key with
    | endpoint => exact ⟨_, endpoint⟩
    | identity => exact ⟨_, identity⟩
    | token => exact ⟨_, token⟩
    | session => exact ⟨_, session⟩
    | group => exact ⟨_, group⟩
  · intro all
    obtain ⟨endpoint, first⟩ := all .endpoint
    obtain ⟨identity, second⟩ := all .identity
    obtain ⟨token, third⟩ := all .token
    obtain ⟨session, fourth⟩ := all .session
    obtain ⟨group, fifth⟩ := all .group
    refine ⟨{ endpoint, identity, token, session, group }, ?_⟩
    simp only [ofStore, first, second, third, fourth, fifth]
    rfl

def Dialer.opens : Dialer → Bool
  | .once (some _) | .listed (none :: _) => true
  | _ => false

/-- A line takes frames, and nothing that has been reported on it ends the connection. -/
def Line.isSteady (line : Line) : Bool :=
  line.accepting && line.reporting && line.reports.all fun report => !report.isFinal

/-- The line that an attempt opens is there and steady; one that is made for it always is. -/
def Dialer.serves (lines : List Line) : Dialer → Bool
  | .once (some index) => (lines[index]?).any Line.isSteady
  | _ => true

/-- A desk that comes to a line that takes frames is connected, and can queue more. -/
theorem Desk.connect_ok {H W : Type} {desk : Desk H W} {index : Nat} {line : Line}
    (there : desk.link.line? index = some line) (accepting : line.accepting = true)
    (unread : desk.stream = none) :
    ∃ link stream agenda, link.Accepts ∧
      desk.connect (.ok index) = (.ok (), { desk with link, stream, agenda }) := by
  have dialled : desk.link.dial.line? index = some line := there
  have joined : (desk.link.dial.conclude (.ok index)).1 = .ok () := by
    rw [Link.conclude_fst dialled, accepting]
    rfl
  have accepts : (desk.link.dial.conclude (.ok index)).2.Accepts := by
    refine ⟨?_, index, { line with
      outbox := line.outbox ++ [{ kind := "join", payload := desk.link.dial.tagged [] }]
      pump := .running }, Link.conclude_current _ _, ?_, accepting⟩
    · rw [Link.conclude_status]
      exact fun impossible => by cases impossible
    · rw [Link.line?_conclude, if_pos rfl, dialled, joined]
      rfl
  have concluded : desk.dial.link.conclude (.ok index) =
      (.ok (), (desk.link.dial.conclude (.ok index)).2) := Prod.ext joined rfl
  have unread' : desk.dial.stream = none := unread
  unfold connect opened
  rw [concluded, unread']
  dsimp only
  unfold summon
  split
  · exact ⟨_, some index, desk.agenda, accepts, rfl⟩
  · exact ⟨_, some index, _, accepts, rfl⟩

/-- An attempt fails, or it comes to a line that takes frames. -/
theorem Dialer.attempt_cases {dialer : Dialer} {link : Link}
    (serves : dialer.serves link.lines = true) :
    (dialer.opens = false ∧ ∃ reason, (dialer.attempt link).1 = .error reason) ∨
      (dialer.opens = true ∧ ∃ index lines, (dialer.attempt link).1 = .ok index ∧
        (dialer.attempt link).2.2 = { link with lines } ∧
        ∃ line, lines[index]? = some line ∧ line.accepting = true) := by
  cases dialer with
  | refusing reason => exact .inl ⟨rfl, reason, rfl⟩
  | once line =>
    cases line with
    | none => exact .inl ⟨rfl, _, rfl⟩
    | some index =>
      rw [Dialer.serves, Option.any_eq_true] at serves
      obtain ⟨line, there, steady⟩ := serves
      simp only [Line.isSteady, Bool.and_eq_true] at steady
      exact .inr ⟨rfl, index, link.lines, rfl, rfl, line, there, steady.1.1⟩
  | listed outcomes =>
    cases outcomes with
    | nil => exact .inl ⟨rfl, _, rfl⟩
    | cons outcome rest =>
      cases outcome with
      | some reason => exact .inl ⟨rfl, reason, rfl⟩
      | none => exact .inr ⟨rfl, link.lines.length, link.lines ++ [({} : Line)], rfl, rfl, {},
        by simp, rfl⟩

/-- A desk connects exactly when its dialer opens a line, and can then queue frames. -/
theorem Desk.connectThrough_ok {H W : Type} {desk : Desk H W} {dialer : Dialer}
    (serves : dialer.serves desk.link.lines = true) (unread : desk.stream = none) :
    ((desk.connectThrough dialer).1 = .ok () ↔ dialer.opens = true) ∧
      ((desk.connectThrough dialer).1 = .ok () → ∃ link stream agenda, link.Accepts ∧
        (desk.connectThrough dialer).2.2 = { desk with link, stream, agenda }) := by
  have attempted : desk.connectThrough dialer =
      ((({ desk with link := (dialer.attempt desk.link).2.2 } : Desk H W).connect
          (dialer.attempt desk.link).1).1, (dialer.attempt desk.link).2.1,
        (({ desk with link := (dialer.attempt desk.link).2.2 } : Desk H W).connect
          (dialer.attempt desk.link).1).2) := rfl
  rw [attempted]
  rcases Dialer.attempt_cases serves with
    ⟨closed, reason, failed⟩ | ⟨opens, index, lines, opened, made, line, there, accepting⟩
  · rw [failed, closed]
    refine ⟨⟨fun impossible => ?_, fun impossible => ?_⟩, fun impossible => ?_⟩ <;>
      cases impossible
  · rw [opened, made, opens]
    let dialled : Desk H W := { desk with link.lines := lines }
    have there' : dialled.link.line? index = some line := there
    obtain ⟨link, stream, agenda, accepts, connected⟩ := connect_ok there' accepting unread
    rw [connected]
    exact ⟨⟨fun _ => rfl, fun _ => rfl⟩, fun _ => ⟨link, stream, agenda, accepts, rfl⟩⟩

end Exchange

namespace Session
open Page Message Exchange Assembly Builtin

namespace Configuration

/-- The resources that are loaded for the page: those that it admits, and of each name the first. -/
def loaded (configuration : Configuration) : List Resource :=
  selection configuration.page configuration.resources

/-- All five credentials are there, and none is empty. -/
def HasCredentials (configuration : Configuration) : Prop :=
  ∀ key : CredentialKey, ∃ value, configuration.store key.name = some value ∧ value ≠ ""

/-- The page of a configuration can be built. -/
structure CanBuild (configuration : Configuration) : Prop where
  loads : Loadable configuration.loaded
  /-- Every path is named like a module that one of the resources brings. -/
  modules : ∀ path ∈ configuration.interfaces, ∃ kind,
    Brought configuration.loaded kind ∧ path.text = kind.name
  /-- User management always stands somewhere behind the administration area. -/
  parents : ∀ front behind, configuration.interfaces = front ++ Kind.users.path :: behind →
    Kind.admin.path ∈ front

end Configuration

variable {U : Type}

/-- Paths fit one behind the other exactly when each finds its module and user management its
area. -/
private theorem fits_iff (brought : Kind → Prop) (paths : List NodePath) :
    (∀ before path behind, paths = before ++ path :: behind → Fits brought before path) ↔
      (∀ path ∈ paths, ∃ kind, brought kind ∧ path.text = kind.name) ∧
        ∀ before behind, paths = before ++ Kind.users.path :: behind →
          Kind.admin.path ∈ before := by
  constructor
  · intro all
    refine ⟨fun path member => ?_, fun before behind split => ?_⟩
    · obtain ⟨before, behind, split⟩ := List.append_of_mem member
      exact (all before path behind split).module
    · exact (all before _ behind split).parent rfl
  · rintro ⟨modules, parents⟩ before path behind split
    refine ⟨modules path (by rw [split]; simp), ?_⟩
    rintro rfl
    exact parents before behind split

/-- A workshop that has the modules of some kinds and nothing in its tree. -/
private theorem furnished_empty {brought : Kind → Prop} {page : Context} {roster : Roster Kind}
    {desk : Desk (Handler U) Notebook}
    (modules : ∀ {name m}, roster.modules.find? name = some m ↔
      ∃ kind, brought kind ∧ m = moduleOf id kind ∧ m.name = name)
    (ready : IsOpen desk) (first : desk.ids.next = 0) :
    Furnished brought page [] { roster, page, services := desk } where
  modules := modules
  forPage := rfl
  areas area := iff_of_false Bool.false_ne_true (List.not_mem_nil)
  users := iff_of_false Bool.false_ne_true (List.not_mem_nil)
  nodes found := by cases found
  ready := ready
  ids := Nat.le_of_eq first

def startup (configuration : Configuration) (desk : Desk (Handler U) Notebook) :
    Startup Kind (Desk (Handler U) Notebook) where
  settings := configuration.startup
  workshop := { page := configuration.page, services := { desk with stream := none } }
  intake := (Intake.inject (loader id) configuration.page configuration.resources {}).2

theorem startup_intake (configuration : Configuration) (desk : Desk (Handler U) Notebook) :
    (startup configuration desk).intake =
      (Intake.inject (delivering (source id) excuse) configuration.page configuration.resources
        {}).2 := by
  rw [← loader_eq]
  rfl

def waited (configuration : Configuration) (desk : Desk (Handler U) Notebook) :
    Except Page.Failure Unit × Startup Kind (Desk (Handler U) Notebook) :=
  (startup configuration desk).waitForLoads (2 * configuration.resources.length + 1)

theorem build_startup (programs : U → Invocation → Program (Handler U))
    (configuration : Configuration) (desk : Desk (Handler U) Notebook) :
    build programs configuration desk =
      match (startup configuration desk).bootstrap (moduleBehaviour programs)
        (2 * configuration.resources.length + 1) stepsPerPath configuration.interfaces with
      | (some (.ok ()), startup) => some (.ok
          { tree := startup.workshop.tree, desk := startup.workshop.services, line := desk.stream })
      | (some (.error failure), _) => some (.error (.startup failure))
      | (none, _) => none := rfl

/-- A page is composed of what its loads have brought, once they have succeeded. -/
theorem build_eq (programs : U → Invocation → Program (Handler U)) {configuration : Configuration}
    {desk : Desk (Handler U) Notebook} {roster : Roster Kind}
    (brought : (waited configuration desk).2.workshop =
      { (startup configuration desk).workshop with roster }) :
    build programs configuration desk =
      match (waited configuration desk).1 with
      | .error failure => some (.error (.startup failure))
      | .ok () =>
        match Workshop.composeAll (moduleBehaviour programs) stepsPerPath configuration.interfaces
          { (startup configuration desk).workshop with roster } with
        | (some (.ok ()), last) =>
          some (.ok { tree := last.tree, desk := last.services, line := desk.stream })
        | (some (.error failure), _) => some (.error (.startup failure))
        | (none, _) => none := by
  rw [← brought, build_startup]
  unfold Startup.bootstrap waited
  cases (startup configuration desk).waitForLoads (2 * configuration.resources.length + 1) with
  | mk result after =>
    cases result with
    | error failure => rfl
    | ok =>
      dsimp only
      cases Workshop.composeAll (moduleBehaviour programs) stepsPerPath configuration.interfaces
        after.workshop with
      | mk verdict last => rcases verdict with _ | _ | _ <;> rfl

/-- The page is built on a desk that is open exactly when its configuration allows it. -/
theorem build_verdict (programs : U → Invocation → Program (Handler U))
    {configuration : Configuration} {desk : Desk (Handler U) Notebook}
    (prompt : 1 ≤ configuration.startup.timeoutMs)
    (parsed : ∀ path ∈ configuration.interfaces, ∃ text, NodePath.ofText? text = some path)
    (few : configuration.interfaces.length < UInt64.size) (ready : IsOpen desk)
    (first : desk.ids.next = 0) :
    ∃ verdict, build programs configuration desk = some verdict ∧
      (verdict.isOk = true ↔ configuration.CanBuild) ∧
      ∀ session, verdict = .ok session → ∃ workshop,
        Furnished (Brought configuration.loaded) configuration.page configuration.interfaces
          workshop ∧ session.tree = workshop.tree ∧ session.desk = workshop.services ∧
          session.line = desk.stream := by
  obtain ⟨ended, roster, workshop, modules⟩ := Startup.waitForLoads_delivering
    (startup_intake configuration desk) rfl prompt
    (Nat.le_succ (2 * configuration.resources.length))
  rw [deliverable_iff] at ended
  rw [build_eq programs workshop]
  change (waited configuration desk).1 = .ok () ↔ _ at ended
  change (waited configuration desk).1 = .ok () → _ at modules
  cases result : (waited configuration desk).1 with
  | error failure =>
    rw [result] at ended
    refine ⟨_, rfl, ⟨fun impossible => (by cases impossible), fun can => ?_⟩, ?_⟩
    · cases ended.mpr can.loads
    · intro session impossible
      cases impossible
  | ok =>
    have brought : ∀ {name m}, roster.modules.find? name = some m ↔
        ∃ kind, Brought configuration.loaded kind ∧ m = moduleOf id kind ∧ m.name = name := by
      intro name m
      rw [modules result]
      constructor
      · rintro ⟨resource, member, found, named⟩
        obtain ⟨kind, led, same⟩ := (source_eq_some_iff id resource m).mp found
        exact ⟨kind, List.mem_map.mpr ⟨resource, member, led⟩, same, named⟩
      · rintro ⟨kind, brought, same, named⟩
        obtain ⟨resource, member, led⟩ := List.mem_map.mp brought
        exact ⟨resource, member, (source_eq_some_iff id resource m).mpr ⟨kind, led, same⟩, named⟩
    have empty : Furnished (Brought configuration.loaded) configuration.page []
        { (startup configuration desk).workshop with roster } :=
      furnished_empty brought ⟨ready.accepts, ready.calls, ready.callbacks⟩ first
    obtain ⟨composed, last, ran, verdict, reached⟩ :=
      composeAll_furnished programs empty parsed (by simpa using few)
    simp only [List.nil_append] at verdict reached
    rw [fits_iff] at verdict
    dsimp only
    rw [ran]
    cases composed with
    | error failure =>
      refine ⟨_, rfl, ⟨fun impossible => (by cases impossible), fun can => ?_⟩, ?_⟩
      · cases verdict.mpr ⟨can.modules, can.parents⟩
      · intro session impossible
        cases impossible
    | ok =>
      obtain ⟨found, parents⟩ := verdict.mp rfl
      refine ⟨_, rfl, ⟨fun _ => ⟨ended.mp result, found, parents⟩, fun _ => rfl⟩, ?_⟩
      intro session same
      cases same
      exact ⟨last, reached rfl, rfl, rfl, rfl⟩

/-- A page admits the landing area always, and the others if it has the role. -/
theorem admits_eq_false_iff (page : Context) (kind : Kind) :
    admits page kind = false ↔ kind ≠ .home ∧ page.hasRole adminRole = false := by
  cases kind <;> simp [admits, Kind.guard?, Guard.allows]

/-- With credentials a session dials, and it builds its page on the desk that has connected. -/
theorem start_eq (programs : U → Invocation → Program (Handler U)) {configuration : Configuration}
    {credentials : Credentials} (read : Credentials.ofStore configuration.store = .ok credentials)
    (dialer : Dialer) (lines : List Line) :
    start programs configuration dialer lines =
      match Desk.connectThrough
        { settings := configuration.exchange, link := { credentials, lines }, page := {} }
        dialer with
      | (.error failure, dialer, _) => (some (.error (.connection failure)), dialer)
      | (.ok (), dialer, desk) => (build programs configuration desk, dialer) := by
  have started := start.eq_def programs configuration dialer lines
  rw [read] at started
  exact started

/-- A start connects and then builds, unless credentials are missing. -/
private theorem start_cases (programs : U → Invocation → Program (Handler U))
    (configuration : Configuration) {dialer : Dialer} {lines : List Line}
    (serves : dialer.serves lines = true) :
    (¬ configuration.HasCredentials ∧ ∃ key, start programs configuration dialer lines =
      (some (.error (.credentials (.missingCredential key))), dialer)) ∨
    (configuration.HasCredentials ∧ dialer.opens = false ∧ ∃ failure,
      (start programs configuration dialer lines).1 = some (.error (.connection failure))) ∨
    (configuration.HasCredentials ∧ dialer.opens = true ∧ ∃ desk : Desk (Handler U) Notebook,
      IsOpen desk ∧ desk.ids.next = 0 ∧
        (start programs configuration dialer lines).1 = build programs configuration desk) := by
  have all : configuration.HasCredentials ↔
      ∃ credentials, Credentials.ofStore configuration.store = .ok credentials :=
    (Credentials.ofStore_ok_iff configuration.store).symm
  cases read : Credentials.ofStore configuration.store with
  | error key =>
    refine .inl ⟨?_, key, by rw [start, read]⟩
    rw [all, read]
    rintro ⟨credentials, impossible⟩
    cases impossible
  | ok credentials =>
    right
    rw [all]
    let desk : Desk (Handler U) Notebook :=
      { settings := configuration.exchange, link := { credentials, lines }, page := {} }
    have unread : desk.stream = none := rfl
    obtain ⟨opens, connected⟩ := Desk.connectThrough_ok serves unread
    have started := start_eq programs read dialer lines
    cases attempted : desk.connectThrough dialer with
    | mk result others =>
      obtain ⟨dialer', desk'⟩ := others
      rw [attempted] at opens connected started
      rw [started]
      cases result with
      | error failure =>
        have closed : dialer.opens = false := Bool.eq_false_iff.mpr fun open_ => by
          cases opens.mpr open_
        exact .inl ⟨⟨credentials, read⟩, closed, failure, rfl⟩
      | ok =>
        obtain ⟨link, stream, agenda, accepts, same⟩ := connected rfl
        refine .inr ⟨⟨credentials, read⟩, opens.mp rfl, desk', ?_, ?_, rfl⟩
        · rw [show desk' = { desk with link, stream, agenda } from same]
          exact ⟨accepts, fun _ _ => rfl, fun _ _ => rfl⟩
        · rw [show desk' = { desk with link, stream, agenda } from same]

/-- A session starts exactly when all credentials are there, the dialer opens a line and the page
can be built. Without credentials the dialer is left as it was. In a page that was built, the
landing area is never vacant, and the other nodes are exactly when the page lacks the role. -/
theorem starts_iff (programs : U → Invocation → Program (Handler U)) {configuration : Configuration}
    {dialer : Dialer} {lines : List Line} (prompt : 1 ≤ configuration.startup.timeoutMs)
    (parsed : ∀ path ∈ configuration.interfaces, ∃ text, NodePath.ofText? text = some path)
    (few : configuration.interfaces.length < UInt64.size) (serves : dialer.serves lines = true) :
    (∃ verdict, (start programs configuration dialer lines).1 = some verdict ∧
      (verdict.isOk = true ↔
        configuration.HasCredentials ∧ dialer.opens = true ∧ configuration.CanBuild)) ∧
    (¬ configuration.HasCredentials → ∃ key, start programs configuration dialer lines =
      (some (.error (.credentials (.missingCredential key))), dialer)) ∧
    ∀ session, (start programs configuration dialer lines).1 = some (.ok session) →
      (∀ area, session.tree.contains { area } = true ↔ { area } ∈ configuration.interfaces) ∧
      (session.tree.contains Kind.users.path = true ↔
        Kind.users.path ∈ behindAdmin configuration.interfaces) ∧
      ∀ kind : Kind, session.tree.isVacant kind.path = true ↔
        session.tree.contains kind.path = true ∧ kind ≠ .home ∧
          configuration.page.hasRole adminRole = false := by
  rcases start_cases programs configuration serves with
    ⟨missing, key, failed⟩ | ⟨there, closed, failure, failed⟩ |
      ⟨there, opens, desk, ready, first, built⟩
  · refine ⟨⟨_, by rw [failed], ?_⟩, fun _ => ⟨key, failed⟩, fun session started => ?_⟩
    · exact iff_of_false Bool.false_ne_true fun all => missing all.1
    · rw [failed] at started
      cases started
  · refine ⟨⟨_, failed, ?_⟩, fun missing => absurd there missing, fun session started => ?_⟩
    · refine iff_of_false Bool.false_ne_true fun all => ?_
      rw [closed] at all
      exact Bool.false_ne_true all.2.1
    · rw [failed] at started
      cases started
  · obtain ⟨verdict, made, can, reached⟩ := build_verdict programs prompt parsed few ready first
    rw [← built] at made
    refine ⟨⟨verdict, made, can.trans ⟨fun can => ⟨there, opens, can⟩, fun all => all.2.2⟩⟩,
      fun missing => absurd there missing, fun session started => ?_⟩
    rw [made] at started
    obtain ⟨workshop, furnished, tree, -, -⟩ := reached session (Option.some.inj started)
    rw [tree]
    refine ⟨furnished.areas, furnished.users, fun kind => ?_⟩
    rw [← admits_eq_false_iff, Tree.isVacant, Tree.contains]
    cases found : workshop.tree.node? kind.path with
    | none => simp
    | some object =>
      rw [← furnished.nodes found]
      cases object <;> simp

/-- The standard configuration with credentials, for a page without roles. -/
def standard : Configuration :=
  { credentials := [("endpoint", "e"), ("identity", "i"), ("token", "t"), ("session", "s"),
      ("group", "g")] }

private theorem standard_interfaces :
    standard.interfaces = [Kind.home.path, Kind.admin.path, Kind.users.path] := by
  decide +kernel

private theorem standard_canBuild : standard.CanBuild := by
  have loaded : standard.loaded = Kind.all.map Kind.resource := by decide +kernel
  have brought (kind : Kind) : Brought standard.loaded kind := by
    rw [Brought, loaded]
    cases kind <;> decide +kernel
  refine ⟨⟨?_, ?_, ?_⟩, ?_, ?_⟩
  · intro resource member
    rw [loaded] at member
    obtain ⟨kind, -, rfl⟩ := List.mem_map.mp member
    exact ⟨kind, rfl⟩
  · rw [loaded]
    decide +kernel
  · intro resource member
    rw [loaded] at member
    obtain ⟨kind, -, rfl⟩ := List.mem_map.mp member
    exact ⟨kind, brought kind, rfl⟩
  · intro path member
    obtain ⟨kind, -, read⟩ := List.mem_filterMap.mp member
    exact ⟨kind, brought kind, NodePath.text_of_ofText? read⟩
  · intro front behind split
    rw [standard_interfaces] at split
    rcases front with _ | ⟨first, _ | ⟨second, front⟩⟩
    · simp [Kind.path] at split
    · simp [Kind.path] at split
    · obtain ⟨-, rfl, -⟩ : _ ∧ Kind.admin.path = second ∧ _ := by simpa using split
      simp

/-- The standard page starts, and everything but its landing area is vacant. -/
theorem starts_iff_standard : ∃ session : Session Unit,
    (start (fun _ _ => .finish) standard (.once (some 0)) [.toProcess]).1 = some (.ok session) ∧
      session.tree.isVacant Kind.home.path = false ∧
      session.tree.isVacant Kind.admin.path = true ∧
      session.tree.isVacant Kind.users.path = true := by
  have prompt : 1 ≤ standard.startup.timeoutMs := by decide
  have parsed : ∀ path ∈ standard.interfaces, ∃ text, NodePath.ofText? text = some path := by
    intro path member
    obtain ⟨kind, -, read⟩ := List.mem_filterMap.mp member
    exact ⟨kind.name, read⟩
  have few : standard.interfaces.length < UInt64.size := by
    rw [standard_interfaces]
    decide
  have serves : (Dialer.once (some 0)).serves [.toProcess] = true := by decide
  obtain ⟨⟨verdict, made, succeeds⟩, -, page⟩ :=
    starts_iff (U := Unit) (fun _ _ => .finish) prompt parsed few serves
  have credentials : standard.HasCredentials := by
    intro key
    cases key <;> exact ⟨_, rfl, by decide⟩
  have ok := succeeds.mpr ⟨credentials, rfl, standard_canBuild⟩
  cases verdict with
  | error failure => cases ok
  | ok session =>
    obtain ⟨areas, users, vacant⟩ := page session made
    have lacking : standard.page.hasRole adminRole = false := by decide
    refine ⟨session, made, ?_, ?_, ?_⟩
    · exact Bool.eq_false_iff.mpr fun impossible => ((vacant .home).mp impossible).2.1 rfl
    · refine (vacant .admin).mpr ⟨(areas "admin").mpr ?_, by decide, lacking⟩
      rw [standard_interfaces]
      decide
    · refine (vacant .users).mpr ⟨users.mpr ?_, by decide, lacking⟩
      rw [standard_interfaces]
      decide

end Session
end PageSession
