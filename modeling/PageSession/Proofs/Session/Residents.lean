import PageSession.Proofs.Session.Starting

/-!
The residents of a page: the landing area and user management, when they have been constructed.
What they file with the desk while the page is built is all that is filed there. Where each of them
is listed once, the page that has started holds them as they were made, with nothing learned yet and
the summary asked for under the first id that the desk makes.
-/
namespace PageSession

namespace Exchange

/-- A desk that has connected has come to a line that takes frames. -/
theorem Desk.connect_accepts {H W : Type} {desk : Desk H W} {outcome : Except String Nat}
    (connected : (desk.connect outcome).1 = .ok ()) (unread : desk.stream = none) :
    ∃ link stream agenda, link.Accepts ∧
      desk.connect outcome = (.ok (), { desk with link, stream, agenda }) := by
  cases outcome with
  | error reason => cases connected
  | ok index =>
    have concluded : (desk.link.dial.conclude (.ok index)).1 = .ok () := by
      cases result : desk.link.dial.conclude (.ok index) with
      | mk verdict link =>
        cases verdict with
        | ok => rfl
        | error failure =>
          unfold connect opened dial at connected
          rw [result] at connected
          cases connected
    rw [Link.conclude_eq] at concluded
    split at concluded
    · rename_i sent joined
      obtain ⟨-, _, line, current, there, accepting, -⟩ := Link.emit_ok joined
      cases current
      exact connect_ok (show desk.link.line? _ = some line from there) accepting unread
    · cases concluded

end Exchange

namespace Session
open Page Message Exchange Assembly Builtin

variable {U : Type}

/-- The objects of a page that follow the server, by their serial numbers. -/
structure Residents where
  home : Option Nat := none
  users : Option Nat := none

def summaryId : String := CallbackIds.name 0

/-- What residents have filed with a desk. Nobody else has filed anything. -/
structure Residents.Filed (residents : Residents) (desk : Desk (Handler U) Notebook) : Prop where
  users : desk.callbacks.find? usersCallback = residents.users.map fun serial =>
    { handler := .page (.users serial), lifetime := .durable }
  /-- The summary is awaited until it has come. -/
  summary : ∀ {callback}, desk.callbacks.find? summaryId = some callback →
    ∃ serial, residents.home = some serial ∧
      callback = { handler := .page (.summary serial), lifetime := .once }
  others : ∀ {id}, id ≠ usersCallback → id ≠ summaryId → desk.callbacks.find? id = none
  methods : ∀ {name h}, desk.methods.find? name = some h → h = .page .refresh
  progress : desk.subscribers.loadingProgress =
    (residents.home.map fun _ => Handler.page .progress).toList
  status : desk.subscribers.statusChange =
    (residents.home.map fun serial => Handler.page (.status serial)).toList

/-- The landing area waits for its summary. -/
structure Asked (serial : Nat) (desk : Desk (Handler U) Notebook) : Prop where
  callback : desk.callbacks.find? summaryId =
    some { handler := .page (.summary serial), lifetime := .once }
  call : ∃ call, desk.calls.find? summaryId = some call ∧ call.handler = summaryHandler

/-- What is known of a workshop that has composed some paths. -/
structure Housed (front : List NodePath) (residents : Residents)
    (workshop : Workshop Kind (Desk (Handler U) Notebook)) : Prop where
  modules : ∀ {name m}, workshop.roster.modules.find? name = some m →
    ∃ kind, m = moduleOf id kind ∧ kind.name = name
  home : residents.home.isSome = true ↔ Kind.home.name ∈ front.map NodePath.text
  users : residents.users.isSome = true → Kind.users.name ∈ front.map NodePath.text
  homeNode : workshop.tree.get? Kind.home.path =
    residents.home.map fun serial => { serial, body := .home }
  usersNode : ∀ {object}, workshop.tree.get? Kind.users.path = some object →
    object.body = .users ∧ residents.users = some object.serial
  filed : residents.Filed workshop.services
  asked : ∀ {serial}, residents.home = some serial → Asked serial workshop.services
  /-- As long as nobody has asked for a summary, no id has been made. -/
  unasked : residents.home = none →
    workshop.services.calls.find? summaryId = none ∧ workshop.services.ids.next = 0
  accepts : workshop.services.link.Accepts
  page : workshop.services.page = {}
  stream : workshop.services.stream = none

theorem usersCallback_ne_summaryId : usersCallback ≠ summaryId :=
  (name_ne_usersCallback 0).symm

/-- The first path is composed in an empty workshop. -/
theorem housed_empty {roster : Roster Kind} {page : Context} {settings : Exchange.Settings}
    {link : Link} {agenda : List Worker}
    (modules : ∀ {name m}, roster.modules.find? name = some m →
      ∃ kind, m = moduleOf id kind ∧ kind.name = name)
    (accepts : link.Accepts) :
    Housed (U := U) [] {} { roster, page, services := { settings, link, agenda, page := {} } } where
  modules := modules
  home := iff_of_false Bool.false_ne_true List.not_mem_nil
  users impossible := absurd impossible Bool.false_ne_true
  homeNode := rfl
  usersNode found := by cases found
  filed := ⟨rfl, fun found => (by cases found), fun _ _ => rfl, fun found => (by cases found),
    rfl, rfl⟩
  asked impossible := by cases impossible
  unasked _ := ⟨rfl, rfl⟩
  accepts := accepts
  page := rfl
  stream := rfl

/-- A path that is named like the landing area is its path. -/
theorem eq_home_path {path : NodePath} (named : path.text = Kind.home.name) :
    path = Kind.home.path := by
  obtain ⟨area, key⟩ := path
  cases key with
  | none => exact congrArg (NodePath.mk · none) named
  | some key =>
    have dotted : '.' ∈ (NodePath.text { area, key := some key }).toList := by
      simp [NodePath.text]
    rw [named] at dotted
    simp [Kind.name] at dotted

/-- What the composition of a path has come to that succeeds. -/
theorem compose_ok {programs : U → Invocation → Program (Handler U)}
    {workshop after : Workshop Kind (Desk (Handler U) Notebook)} {path : NodePath}
    {outcome : Outcome}
    (composed : workshop.compose (moduleBehaviour programs) stepsPerPath path =
      (some (.ok outcome), after)) :
    ∃ m tree, workshop.roster.modules.find? path.text = some m ∧
      ((m.guard.all (fun guard => guard.allows workshop.page) = true ∧
          workshop.tree.attach path (some { serial := workshop.made, body := m.body }) = .ok tree ∧
          ∃ desk, furnish programs workshop.made m.body workshop.services = (.ok (), desk) ∧
            after = { workshop with tree, made := workshop.made + 1, services := desk }) ∨
        (m.guard.all (fun guard => guard.allows workshop.page) = false ∧
          workshop.tree.attach path none = .ok tree ∧ after = { workshop with tree })) := by
  rw [compose_eq] at composed
  unfold Roster.resolve at composed
  split at composed
  · cases composed
  rename_i m resolved
  have found : workshop.roster.modules.find? path.text = some m := by
    split at resolved
    · cases resolved
      assumption
    · cases resolved
  dsimp only at composed
  split at composed
  · cases composed
  rename_i tree attached
  refine ⟨m, tree, found, ?_⟩
  split at composed
  · rename_i admitted
    rw [admitted] at attached
    split at composed
    · rename_i desk furnished
      cases composed
      exact .inl ⟨admitted, attached, desk, furnished, rfl⟩
    · cases composed
  · rename_i refused
    rw [Bool.not_eq_true] at refused
    rw [refused] at attached
    cases composed
    exact .inr ⟨refused, attached, rfl⟩

/-- Only the landing area itself makes anything of its node. -/
theorem get?_home {tree after : Assembly.Tree (Object Kind)} {path : NodePath}
    {object : Option (Object Kind)}
    (attached : tree.attach path object = .ok after) (other : path.text ≠ Kind.home.name) :
    after.get? Kind.home.path = tree.get? Kind.home.path := by
  have different : Kind.home.path ≠ path := by
    rintro rfl
    exact other rfl
  have beyond : ¬ path.reaches Kind.home.path := by
    rintro (same | ⟨whole, same⟩)
    · exact different same
    · obtain ⟨area, key⟩ := path
      dsimp only at whole same
      subst whole same
      exact other rfl
  rw [Tree.get?_attach attached, if_neg different, if_neg beyond]

/-- What is found at the node of user management after another path has been attached was there
before. -/
theorem get?_users {tree after : Assembly.Tree (Object Kind)} {path : NodePath}
    {object : Option (Object Kind)} {resident : Object Kind}
    (attached : tree.attach path object = .ok after) (other : path.text ≠ Kind.users.name)
    (found : after.get? Kind.users.path = some resident) :
    tree.get? Kind.users.path = some resident := by
  have different : Kind.users.path ≠ path := by
    rintro rfl
    exact other (Kind.text_path .users)
  rw [Tree.get?_attach attached, if_neg different] at found
  split at found
  · cases found
  · exact found

variable {front : List NodePath} {residents : Residents} {path : NodePath}
  {workshop : Workshop Kind (Desk (Handler U) Notebook)}

/-- A path that is no resident's leaves everything at the desk. -/
private theorem Housed.visited (housed : Housed front residents workshop) {made : Nat}
    {object : Option (Object Kind)} {tree : Assembly.Tree (Object Kind)}
    (attached : workshop.tree.attach path object = .ok tree)
    (notHome : path.text ≠ Kind.home.name)
    (vacant : path.text = Kind.users.name → object = none) :
    Housed (front ++ [path]) residents { workshop with tree, made } where
  modules := housed.modules
  home := by
    rw [housed.home, List.map_append, List.mem_append]
    exact ⟨.inl, fun listed => listed.resolve_right fun same =>
      notHome (List.mem_singleton.mp same).symm⟩
  users present := by
    rw [List.map_append]
    exact List.mem_append_left _ (housed.users present)
  homeNode := (get?_home attached notHome).trans housed.homeNode
  usersNode := by
    intro resident found
    by_cases named : path.text = Kind.users.name
    · have nothing := vacant named
      rw [Tree.get?_attach attached, nothing] at found
      split at found
      · cases found
      · split at found
        · cases found
        · exact housed.usersNode found
    · exact housed.usersNode (get?_users attached named found)
  filed := housed.filed
  asked := housed.asked
  unasked := housed.unasked
  accepts := housed.accepts
  page := housed.page
  stream := housed.stream

/-- The landing area moves in. -/
private theorem Housed.home_moves_in (housed : Housed front residents workshop)
    (first : Kind.home.name ∉ front.map NodePath.text) {tree : Assembly.Tree (Object Kind)}
    (attached : workshop.tree.attach Kind.home.path
      (some { serial := workshop.made, body := .home }) = .ok tree) :
    ∃ desk, openHome workshop.made workshop.services = (.ok (), desk) ∧
      Housed (front ++ [Kind.home.path]) { residents with home := some workshop.made }
        { workshop with tree, made := workshop.made + 1, services := desk } := by
  have nobody : residents.home = none := by
    have absent := mt housed.home.mp first
    simpa using absent
  obtain ⟨free, fresh⟩ := housed.unasked nobody
  have unused : workshop.services.callbacks.find? summaryId = none := by
    cases found : workshop.services.callbacks.find? summaryId with
    | none => rfl
    | some callback =>
      obtain ⟨serial, present, -⟩ := housed.filed.summary found
      rw [nobody] at present
      cases present
  have next : CallbackIds.name workshop.services.ids.next = summaryId := by rw [fresh]; rfl
  obtain ⟨desk, opened, spec⟩ := openHome_ok workshop.made housed.accepts
    (by rw [fresh]; decide) (next ▸ free) (next ▸ unused)
  have callbacks := spec.callbacks
  have calls := spec.calls
  have asked := spec.asked
  rw [next] at callbacks calls asked
  refine ⟨desk, opened, housed.modules, ?_, ?_, ?_, ?_, ?_, ?_,
    fun impossible => (by cases impossible), spec.accepts, spec.page.trans housed.page,
    spec.stream.trans housed.stream⟩
  · rw [List.map_append]
    exact iff_of_true rfl (List.mem_append_right _ (List.mem_singleton_self _))
  · intro present
    rw [List.map_append]
    exact List.mem_append_left _ (housed.users present)
  · rw [Tree.get?_attach attached, if_pos rfl]
    rfl
  · intro resident found
    exact housed.usersNode (get?_users attached (by decide) found)
  · refine ⟨?_, ?_, ?_, ?_, ?_, ?_⟩
    · rw [callbacks, Table.find?_insert, if_neg usersCallback_ne_summaryId]
      exact housed.filed.users
    · intro callback found
      rw [callbacks, Table.find?_insert, if_pos rfl] at found
      exact ⟨_, rfl, (Option.some.inj found).symm⟩
    · intro other notUsers notSummary
      rw [callbacks, Table.find?_insert, if_neg notSummary]
      exact housed.filed.others notUsers notSummary
    · intro name h found
      rw [spec.methods] at found
      exact housed.filed.methods found
    · rw [spec.subscribers, housed.filed.progress, nobody]
      rfl
    · rw [spec.subscribers, housed.filed.status, nobody]
      rfl
  · intro serial same
    cases same
    exact ⟨by rw [callbacks, Table.find?_insert, if_pos rfl], asked⟩

/-- User management moves in. -/
private theorem Housed.users_move_in (programs : U → Invocation → Program (Handler U))
    (housed : Housed front residents workshop)
    (first : Kind.users.name ∉ front.map NodePath.text) (named : path.text = Kind.users.name)
    {tree : Assembly.Tree (Object Kind)} (attached : workshop.tree.attach path
      (some { serial := workshop.made, body := .users }) = .ok tree) :
    ∃ desk, openUsers programs workshop.made workshop.services = (.ok (), desk) ∧
      Housed (front ++ [path]) { residents with users := some workshop.made }
        { workshop with tree, made := workshop.made + 1, services := desk } := by
  have nobody : residents.users = none := by
    have absent := mt housed.users first
    simpa using absent
  obtain ⟨desk, opened, spec⟩ := openUsers_ok programs workshop.made housed.accepts
  have notHome : path.text ≠ Kind.home.name := by
    rw [named]
    decide
  refine ⟨desk, opened, housed.modules, ?_, ?_, ?_, ?_, ?_, ?_, ?_,
    spec.accepts, spec.page.trans housed.page, spec.stream.trans housed.stream⟩
  · rw [List.map_append, List.mem_append]
    refine housed.home.trans ⟨.inl, fun listed => listed.resolve_right fun same => ?_⟩
    exact notHome (List.mem_singleton.mp same).symm
  · intro _
    rw [List.map_append]
    exact List.mem_append_right _ (List.mem_singleton.mpr named.symm)
  · exact (get?_home attached notHome).trans housed.homeNode
  · intro resident found
    rw [Tree.get?_attach attached] at found
    split at found
    · cases found
      exact ⟨rfl, rfl⟩
    · split at found
      · cases found
      · have present := (housed.usersNode found).2
        rw [nobody] at present
        cases present
  · refine ⟨?_, ?_, ?_, ?_, ?_, ?_⟩
    · rw [spec.callbacks, Table.find?_insert, if_pos rfl]
      rfl
    · intro callback found
      rw [spec.callbacks, Table.find?_insert, if_neg usersCallback_ne_summaryId.symm] at found
      exact housed.filed.summary found
    · intro other notUsers notSummary
      rw [spec.callbacks, Table.find?_insert, if_neg notUsers]
      exact housed.filed.others notUsers notSummary
    · intro name h found
      rw [spec.methods, Table.find?_insert] at found
      split at found
      · exact (Option.some.inj found).symm
      · exact housed.filed.methods found
    · rw [spec.subscribers]
      exact housed.filed.progress
    · rw [spec.subscribers]
      exact housed.filed.status
  · intro serial present
    obtain ⟨callback, call⟩ := housed.asked present
    refine ⟨?_, ?_⟩
    · rw [spec.callbacks, Table.find?_insert, if_neg usersCallback_ne_summaryId.symm]
      exact callback
    · rw [spec.calls _ usersCallback_ne_summaryId.symm]
      exact call
  · intro absent
    rw [spec.calls _ usersCallback_ne_summaryId.symm, spec.ids]
    exact housed.unasked absent

/-- Composing a path that has not been composed before keeps what is known of the residents. -/
theorem compose_housed {programs : U → Invocation → Program (Handler U)}
    {after : Workshop Kind (Desk (Handler U) Notebook)} {outcome : Outcome}
    (housed : Housed front residents workshop)
    (composed : workshop.compose (moduleBehaviour programs) stepsPerPath path =
      (some (.ok outcome), after))
    (once : ∀ kind : Kind, kind ≠ .admin → path.text = kind.name →
      kind.name ∉ front.map NodePath.text) :
    ∃ residents', Housed (front ++ [path]) residents' after := by
  obtain ⟨m, tree, found, composition⟩ := compose_ok composed
  obtain ⟨kind, rfl, named⟩ := housed.modules found
  have others {other : Kind} (different : kind ≠ other) : path.text ≠ other.name := by
    rw [← named]
    exact fun same => different (Kind.name_injective same)
  rcases composition with ⟨-, attached, desk, furnished, rfl⟩ | ⟨refused, attached, rfl⟩
  · cases kind with
    | home =>
      obtain rfl := eq_home_path named.symm
      obtain ⟨desk', opened, housed'⟩ := housed.home_moves_in (once .home (by decide) rfl) attached
      cases opened.symm.trans furnished
      exact ⟨_, housed'⟩
    | users =>
      obtain ⟨desk', opened, housed'⟩ := housed.users_move_in programs
        (once .users (by decide) named.symm) named.symm attached
      cases opened.symm.trans furnished
      exact ⟨_, housed'⟩
    | admin =>
      cases furnished
      exact ⟨residents, housed.visited attached (others (by decide))
        fun same => absurd same (others (by decide))⟩
  · have notHome : kind ≠ .home := by
      rintro rfl
      cases refused
    exact ⟨residents, housed.visited attached (others notHome) fun _ => rfl⟩

/-- Composing paths that name the landing area and user management once at most. -/
theorem composeAll_housed {programs : U → Invocation → Program (Handler U)} {rest : List NodePath}
    {after : Workshop Kind (Desk (Handler U) Notebook)} (housed : Housed front residents workshop)
    (composed : Workshop.composeAll (moduleBehaviour programs) stepsPerPath rest workshop =
      (some (.ok ()), after))
    (once : ∀ kind : Kind, kind ≠ .admin →
      ((front ++ rest).map NodePath.text).count kind.name ≤ 1) :
    ∃ residents', Housed (front ++ rest) residents' after := by
  induction rest generalizing front residents workshop with
  | nil =>
    cases composed
    rw [List.append_nil]
    exact ⟨residents, housed⟩
  | cons path rest ih =>
    unfold Workshop.composeAll at composed
    split at composed
    · rename_i outcome middle here
      have split : front ++ path :: rest = (front ++ [path]) ++ rest := by
        rw [List.append_assoc, List.singleton_append]
      obtain ⟨residents', housed'⟩ := compose_housed housed here fun kind resident named => by
        have bound := once kind resident
        rw [split, List.map_append, List.map_append, List.count_append, List.count_append,
          List.map_singleton, named, List.count_singleton_self] at bound
        exact List.count_eq_zero.mp (by omega)
      rw [split] at once ⊢
      exact ih housed' composed once
    · cases composed
    · cases composed

/-- A session that has started was built on a desk that takes requests. -/
private theorem built_of_started {programs : U → Invocation → Program (Handler U)}
    {configuration : Configuration} {dialer : Dialer} {lines : List Line} {session : Session U}
    (started : (start programs configuration dialer lines).1 = some (.ok session)) :
    ∃ link stream agenda, link.Accepts ∧ build programs configuration
      { settings := configuration.exchange, link, stream, agenda, page := {} } =
        some (.ok session) := by
  unfold start at started
  split at started
  · cases started
  · dsimp only at started
    split at started
    · cases started
    · rename_i dialer' desk attempted
      have connected := congrArg (fun result => result.1) attempted
      obtain ⟨link, stream, agenda, accepts, same⟩ := Desk.connect_accepts connected rfl
      have reached : desk = _ := (congrArg (fun result => result.2.2) attempted).symm.trans
        (congrArg Prod.snd same)
      rw [reached] at started
      exact ⟨link, stream, agenda, accepts, started⟩

/-- A session that has started holds its residents as they were made. -/
theorem start_housed {programs : U → Invocation → Program (Handler U)}
    {configuration : Configuration} {dialer : Dialer} {lines : List Line} {session : Session U}
    (started : (start programs configuration dialer lines).1 = some (.ok session))
    (once : ∀ kind : Kind, kind ≠ .admin →
      (configuration.interfaces.map NodePath.text).count kind.name ≤ 1) :
    ∃ residents workshop, Housed configuration.interfaces residents workshop ∧
      session.tree = workshop.tree ∧ session.desk = workshop.services := by
  obtain ⟨link, stream, agenda, accepts, started⟩ := built_of_started started
  let connected : Desk (Handler U) Notebook :=
    { settings := configuration.exchange, link, stream, agenda, page := {} }
  replace started : build programs configuration connected = some (.ok session) := started
  obtain ⟨roster, workshop, modules⟩ := Startup.modules_of_waitForLoads
    (startup_intake configuration connected) rfl
    (Nat.le_succ (2 * configuration.resources.length))
  rw [build_eq programs workshop] at started
  change (waited configuration connected).1 = .ok () → _ at modules
  cases result : (waited configuration connected).1 with
  | error failure =>
    rw [result] at started
    cases started
  | ok =>
    rw [result] at started
    have brought : ∀ {name m}, roster.modules.find? name = some m →
        ∃ kind, m = moduleOf id kind ∧ kind.name = name := by
      intro name m found
      obtain ⟨resource, led, named⟩ := modules result found
      obtain ⟨kind, -, same⟩ := (source_eq_some_iff id resource m).mp led
      exact ⟨kind, same, by rw [← named, same]; rfl⟩
    have empty : Housed (U := U) [] {}
        { (startup configuration connected).workshop with roster } := housed_empty brought accepts
    cases composed : Workshop.composeAll (moduleBehaviour programs) stepsPerPath
        configuration.interfaces { (startup configuration connected).workshop with roster } with
    | mk outcome last =>
      rw [composed] at started
      cases outcome with
      | none => cases started
      | some verdict =>
        cases verdict with
        | error failure => cases started
        | ok =>
          cases started
          obtain ⟨residents, housed⟩ := composeAll_housed empty composed once
          exact ⟨residents, last, housed, rfl, rfl⟩

end Session
end PageSession
