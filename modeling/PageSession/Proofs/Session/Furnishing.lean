import PageSession.Proofs.Assembly.Nodes
import PageSession.Proofs.Builtin.Opening
import PageSession.Session.Start

/-!
Composition of a page of built-in modules. Their initializers compose no further paths, so that one
composition has one of four outcomes, and a list of paths is composed as far as each of them finds
its module and its area.
-/
namespace PageSession.Session
open Page Message Exchange Assembly Builtin

variable {U : Type}

def furnish (programs : U → Invocation → Program (Handler U)) (serial : Nat) (kind : Kind)
    (desk : Desk (Handler U) Notebook) : Except Exchange.Failure Unit × Desk (Handler U) Notebook :=
  match kind with
  | .home => openHome serial desk
  | .admin => (.ok (), desk)
  | .users => openUsers programs serial desk

section
variable {M S : Type} (behave : Assembly.Behaviour M S)

/-- A composition that nobody waits for takes one more step, unless it has answered. -/
private theorem run_succ (budget : Nat) {c : Composing M S} (busy : c.result? = none) :
    Composing.run behave (budget + 1) c = Composing.run behave budget (c.step behave) := by
  rw [Composing.run, busy]
  rfl

private theorem run_given (budget : Nat) (result : Except Page.Failure Outcome)
    (workshop : Workshop M S) :
    Composing.run behave budget (Composing.give result workshop []) =
      Composing.give result workshop [] := by
  cases budget <;> rfl

end

/-- In two steps an initializer has used the exchange and knows what came of it. -/
private theorem step_initializer (programs : U → Invocation → Program (Handler U)) (path : NodePath)
    (object : Object Kind) (work : Desk (Handler U) Notebook →
      Except Exchange.Failure Unit × Desk (Handler U) Notebook)
    (workshop : Workshop Kind (Desk (Handler U) Notebook)) :
    (Composing.step (moduleBehaviour programs)
      { control := .run path object (throughExchange access work), workshop }).step
        (moduleBehaviour programs) =
      { control := .run path object (match (work workshop.services).1 with
          | .ok () => .finish
          | .error failure => .fail (.exchange failure))
        workshop := { workshop with services := (work workshop.services).2 } } := rfl

/-- An attached object is initialized in three steps. -/
private theorem run_initializer (programs : U → Invocation → Program (Handler U)) (budget : Nat)
    (path : NodePath) (object : Object Kind)
    (work : Desk (Handler U) Notebook →
      Except Exchange.Failure Unit × Desk (Handler U) Notebook)
    (workshop : Workshop Kind (Desk (Handler U) Notebook)) :
    Composing.run (moduleBehaviour programs) (budget + 3)
        { control := .run path object (throughExchange access work), workshop } =
      match work workshop.services with
      | (.ok (), desk) => Composing.give (.ok .attached) { workshop with services := desk } []
      | (.error failure, desk) =>
        Composing.give (.error (.initializer path.text (.exchange failure)))
          { workshop with services := desk, tree := workshop.tree.detach path } [] := by
  rw [run_succ _ _ rfl, run_succ _ _ rfl, step_initializer]
  obtain ⟨result, desk⟩ := work workshop.services
  cases result with
  | ok =>
    rw [run_succ _ _ rfl]
    exact run_given _ _ _ _
  | error failure =>
    rw [run_succ _ _ rfl]
    exact run_given _ _ _ _

/-- Composition of one path. -/
theorem compose_eq (programs : U → Invocation → Program (Handler U))
    (workshop : Workshop Kind (Desk (Handler U) Notebook)) (path : NodePath) :
    workshop.compose (moduleBehaviour programs) stepsPerPath path =
      match workshop.roster.resolve path.text with
      | .error failure => (some (.error failure), workshop)
      | .ok m =>
        let admitted := m.guard.all fun guard => guard.allows workshop.page
        let object : Object Kind := { serial := workshop.made, body := m.body }
        match workshop.tree.attach path (if admitted then some object else none) with
        | .error failure => (some (.error failure), workshop)
        | .ok tree =>
          if admitted then
            match furnish programs workshop.made m.body workshop.services with
            | (.ok (), desk) => (some (.ok .attached),
                { workshop with tree, made := workshop.made + 1, services := desk })
            | (.error failure, desk) =>
              (some (.error (.initializer path.text (.exchange failure))),
                { workshop with
                  tree := tree.detach path, made := workshop.made + 1, services := desk })
          else (some (.ok .vacant), { workshop with tree }) := by
  unfold Workshop.compose stepsPerPath
  rw [run_succ _ _ rfl]
  unfold Composing.step
  dsimp only
  unfold Composing.compose
  rw [if_neg (by exact Bool.false_ne_true)]
  cases found : workshop.roster.resolve path.text with
  | error failure =>
    dsimp only
    rw [run_given]
    rfl
  | ok m =>
    dsimp only
    split
    · rename_i orphan
      rw [Tree.attach_orphan orphan, run_given]
      rfl
    · rename_i rooted
      split
      · rename_i admitted
        obtain ⟨tree, attached⟩ := Tree.attach_rooted rooted
          (some ({ serial := workshop.made, body := m.body } : Object Kind))
        rw [attached]
        let made : Workshop Kind (Desk (Handler U) Notebook) :=
          { workshop with tree, made := workshop.made + 1 }
        have built : Composing.build (moduleBehaviour programs) path m workshop [] =
            match initializer? access programs workshop.made m.body with
            | none => Composing.give (.ok .attached) made []
            | some program =>
              { control := .run path { serial := workshop.made, body := m.body } program
                workshop := made } := by
          unfold Composing.build Workshop.attach
          dsimp only [Workshop.construct]
          rw [attached]
          dsimp only [Except.map, moduleBehaviour]
          cases initializer? access programs workshop.made m.body <;> rfl
        rw [built]
        cases m.body with
        | admin =>
          dsimp only [initializer?]
          rw [run_given]
          rfl
        | home =>
          dsimp only [initializer?, furnish]
          rw [run_initializer programs 12]
          dsimp only [made]
          cases openHome workshop.made workshop.services with
          | mk result desk => cases result <;> rfl
        | users =>
          dsimp only [initializer?, furnish]
          rw [run_initializer programs 12]
          dsimp only [made]
          cases openUsers programs workshop.made workshop.services with
          | mk result desk => cases result <;> rfl
      · rename_i refused
        obtain ⟨tree, attached⟩ := Tree.attach_rooted rooted (none : Option (Object Kind))
        unfold Workshop.attach
        rw [attached]
        dsimp only [Except.map]
        rw [run_given]
        rfl

/-! ## Opening one kind -/

theorem name_ne_usersCallback (n : Nat) : CallbackIds.name n ≠ usersCallback := by
  intro same
  have letters := congrArg (fun text => text.toList.head?) same
  simp [CallbackIds.name, usersCallback] at letters

/-- The built-in modules can be opened: frames can be queued, and no id from the next one on has
been used. -/
structure IsOpen (desk : Desk (Handler U) Notebook) : Prop where
  accepts : desk.link.Accepts
  calls : ∀ n, desk.ids.next ≤ n → desk.calls.find? (CallbackIds.name n) = none
  callbacks : ∀ n, desk.ids.next ≤ n → desk.callbacks.find? (CallbackIds.name n) = none

/-- Opening a module makes one id at most, and leaves room for others. -/
theorem furnish_ok (programs : U → Invocation → Program (Handler U)) (serial : Nat) (kind : Kind)
    {desk : Desk (Handler U) Notebook} (ready : IsOpen desk)
    (within : desk.ids.next + 1 < UInt64.size) :
    ∃ after, furnish programs serial kind desk = (.ok (), after) ∧ IsOpen after ∧
      after.ids.next ≤ desk.ids.next + 1 := by
  cases kind with
  | admin => exact ⟨desk, rfl, ready, Nat.le_succ _⟩
  | home =>
    obtain ⟨after, opened, spec⟩ := openHome_ok serial ready.accepts within
      (ready.calls _ (Nat.le_refl _)) (ready.callbacks _ (Nat.le_refl _))
    have later {n : Nat} (bound : after.ids.next ≤ n) :
        CallbackIds.name n ≠ CallbackIds.name desk.ids.next := by
      intro same
      have equal := CallbackIds.name_injective same
      rw [spec.ids] at bound
      omega
    refine ⟨after, opened, ⟨spec.accepts, ?_, ?_⟩, Nat.le_of_eq spec.ids⟩
    · intro n bound
      rw [spec.calls _ (later bound)]
      exact ready.calls n (by rw [spec.ids] at bound; omega)
    · intro n bound
      rw [spec.callbacks, Table.find?_insert, if_neg (later bound)]
      exact ready.callbacks n (by rw [spec.ids] at bound; omega)
  | users =>
    obtain ⟨after, opened, spec⟩ := openUsers_ok programs serial ready.accepts
    refine ⟨after, opened, ⟨spec.accepts, ?_, ?_⟩, ?_⟩
    · intro n bound
      rw [spec.calls _ (name_ne_usersCallback n)]
      exact ready.calls n (spec.ids ▸ bound)
    · intro n bound
      rw [spec.callbacks, Table.find?_insert, if_neg (name_ne_usersCallback n)]
      exact ready.callbacks n (spec.ids ▸ bound)
    · rw [spec.ids]
      exact Nat.le_succ _

/-! ## Composing a list of paths -/

def admits (page : Context) (kind : Kind) : Bool := kind.guard?.all fun guard => guard.allows page

/-- Composition of the path of a kind whose module is there. -/
theorem compose_kind (programs : U → Invocation → Program (Handler U))
    {workshop : Workshop Kind (Desk (Handler U) Notebook)} {kind : Kind}
    (filed : workshop.roster.modules.find? kind.name = some (moduleOf id kind)) :
    workshop.compose (moduleBehaviour programs) stepsPerPath kind.path =
      match workshop.tree.attach kind.path
        (if admits workshop.page kind then some { serial := workshop.made, body := kind }
          else none) with
      | .error failure => (some (.error failure), workshop)
      | .ok tree =>
        if admits workshop.page kind then
          match furnish programs workshop.made kind workshop.services with
          | (.ok (), desk) => (some (.ok .attached),
              { workshop with tree, made := workshop.made + 1, services := desk })
          | (.error failure, desk) =>
            (some (.error (.initializer kind.path.text (.exchange failure))),
              { workshop with
                tree := tree.detach kind.path, made := workshop.made + 1, services := desk })
        else (some (.ok .vacant), { workshop with tree }) := by
  have resolved : workshop.roster.resolve kind.path.text = .ok (moduleOf id kind) := by
    rw [Roster.resolve, Kind.text_path, filed]
  rw [compose_eq, resolved]
  rfl

/-- The paths behind the last listing of the administration area, the last one first. -/
def behindAdmin (paths : List NodePath) : List NodePath :=
  paths.reverse.takeWhile fun path => path ≠ Kind.admin.path

/-- A workshop that has the modules of some kinds and has composed some paths. -/
structure Furnished (brought : Kind → Prop) (page : Context) (front : List NodePath)
    (workshop : Workshop Kind (Desk (Handler U) Notebook)) : Prop where
  modules : ∀ {name m}, workshop.roster.modules.find? name = some m ↔
    ∃ kind, brought kind ∧ m = moduleOf id kind ∧ m.name = name
  forPage : workshop.page = page
  /-- The areas are those that have been composed. -/
  areas : ∀ area, workshop.tree.contains { area } = true ↔ { area } ∈ front
  /-- User management goes when the administration area is made anew. -/
  users : workshop.tree.contains Kind.users.path = true ↔ Kind.users.path ∈ behindAdmin front
  /-- A node is vacant where the page does not admit its kind. -/
  nodes : ∀ {kind object}, workshop.tree.node? kind.path = some object →
    (object = none ↔ admits page kind = false)
  ready : IsOpen workshop.services
  ids : workshop.services.ids.next ≤ front.length

/-- A path can be composed behind others: its module is there, and it stands behind its area. -/
structure Fits (brought : Kind → Prop) (front : List NodePath) (path : NodePath) : Prop where
  module : ∃ kind, brought kind ∧ path.text = kind.name
  parent : path = Kind.users.path → Kind.admin.path ∈ front

variable {brought : Kind → Prop} {page : Context} {front : List NodePath}
  {workshop : Workshop Kind (Desk (Handler U) Notebook)} {path : NodePath}

/-- Attaching the node of a kind keeps what is known of the tree. -/
private theorem Furnished.attached (furnished : Furnished brought page front workshop) {kind : Kind}
    {object : Option (Object Kind)} {tree : Assembly.Tree (Object Kind)}
    (attached : workshop.tree.attach kind.path object = .ok tree)
    (vacant : object = none ↔ admits page kind = false) :
    (∀ area, tree.contains { area } = true ↔ { area } ∈ front ++ [kind.path]) ∧
      (tree.contains Kind.users.path = true ↔
        Kind.users.path ∈ behindAdmin (front ++ [kind.path])) ∧
      ∀ {other node}, tree.node? (Kind.path other) = some node →
        (node = none ↔ admits page other = false) := by
  refine ⟨?_, ?_, ?_⟩
  · intro area
    rw [List.mem_append, List.mem_singleton, ← furnished.areas, Tree.contains, Tree.contains,
      Tree.node?_attach attached]
    by_cases same : ({ area } : NodePath) = kind.path
    · simp [same]
    · have beyond : ¬ kind.path.reaches { area } := by
        rintro (equal | ⟨whole, equal⟩)
        · exact same equal
        · refine same ?_
          rw [show area = kind.path.area from equal]
          cases kind <;> first | rfl | cases whole
      simp [same, beyond]
  · rw [Tree.contains, Tree.node?_attach attached]
    have earlier := furnished.users
    unfold Tree.contains behindAdmin at earlier
    unfold behindAdmin
    rw [List.reverse_append, List.reverse_singleton, List.singleton_append, List.takeWhile_cons]
    cases kind with
    | admin => simp [Kind.path, NodePath.reaches]
    | users => simp [Kind.path]
    | home => simpa [Kind.path, NodePath.reaches] using earlier
  · intro other node found
    rw [Tree.node?_attach attached] at found
    split at found
    · rename_i same
      cases found
      rw [Kind.path_injective same]
      exact vacant
    · split at found
      · cases found
      · exact furnished.nodes found

/-- One path is composed with success exactly when it fits. -/
theorem compose_furnished (programs : U → Invocation → Program (Handler U))
    (furnished : Furnished brought page front workshop)
    (parsed : ∃ text, NodePath.ofText? text = some path)
    (few : front.length + 1 < UInt64.size) :
    (∃ outcome after, workshop.compose (moduleBehaviour programs) stepsPerPath path =
        (some (.ok outcome), after) ∧ Fits brought front path ∧
        Furnished brought page (front ++ [path]) after) ∨
      ∃ failure, workshop.compose (moduleBehaviour programs) stepsPerPath path =
        (some (.error failure), workshop) ∧ ¬ Fits brought front path := by
  cases found : workshop.roster.modules.find? path.text with
  | none =>
    refine .inr ⟨.notFound path.text, by rw [compose_eq, Roster.resolve, found], fun fits => ?_⟩
    obtain ⟨kind, here, named⟩ := fits.module
    have filed : workshop.roster.modules.find? kind.name = some (moduleOf id kind) :=
      furnished.modules.mpr ⟨kind, here, rfl, rfl⟩
    rw [named, filed] at found
    cases found
  | some m =>
    obtain ⟨kind, here, rfl, named⟩ := furnished.modules.mp found
    obtain rfl := Kind.eq_path parsed named.symm
    have filed : workshop.roster.modules.find? kind.name = some (moduleOf id kind) := by
      rw [← Kind.text_path, found]
    have fits_iff : Fits brought front kind.path ↔
        kind.path.key = none ∨ workshop.tree.contains { area := kind.path.area } = true := by
      rw [furnished.areas]
      constructor
      · intro fits
        cases kind with
        | home | admin => exact .inl rfl
        | users => exact .inr (fits.parent rfl)
      · intro rooted
        refine ⟨⟨kind, here, named.symm⟩, fun same => ?_⟩
        rw [Kind.path_injective same] at rooted
        exact rooted.resolve_left (by decide)
    rw [fits_iff, ← Tree.attach_ok_iff _ _
      (if admits workshop.page kind then some { serial := workshop.made, body := kind } else none),
      compose_kind programs filed]
    obtain ⟨desk, opened, ready, ids⟩ := furnish_ok programs workshop.made kind furnished.ready
      (Nat.lt_of_le_of_lt (Nat.succ_le_succ furnished.ids) few)
    rw [opened]
    have longer : (front ++ [kind.path]).length = front.length + 1 := List.length_append
    cases attached : workshop.tree.attach kind.path
      (if admits workshop.page kind then some { serial := workshop.made, body := kind }
        else none) with
    | error failure =>
      refine .inr ⟨failure, rfl, ?_⟩
      rintro ⟨after, impossible⟩
      cases impossible
    | ok tree =>
      obtain ⟨areas, users, nodes⟩ := furnished.attached attached (by
        rw [furnished.forPage]
        cases admits page kind <;> simp)
      left
      cases admitted : admits workshop.page kind with
      | true =>
        refine ⟨_, _, rfl, ⟨tree, rfl⟩, furnished.modules, furnished.forPage, areas, users,
          nodes, ready, ?_⟩
        rw [longer]
        exact Nat.le_trans ids (Nat.succ_le_succ furnished.ids)
      | false =>
        refine ⟨_, _, rfl, ⟨tree, rfl⟩, furnished.modules, furnished.forPage, areas, users, nodes,
          furnished.ready, ?_⟩
        rw [longer]
        exact Nat.le_succ_of_le furnished.ids

/-- Paths are composed with success exactly when each of them fits behind those before it. -/
theorem composeAll_furnished (programs : U → Invocation → Program (Handler U))
    {rest : List NodePath} (furnished : Furnished brought page front workshop)
    (parsed : ∀ path ∈ rest, ∃ text, NodePath.ofText? text = some path)
    (few : front.length + rest.length < UInt64.size) :
    ∃ result after, Workshop.composeAll (moduleBehaviour programs) stepsPerPath rest workshop =
        (some result, after) ∧
      (result = .ok () ↔ ∀ before path behind, rest = before ++ path :: behind →
        Fits brought (front ++ before) path) ∧
      (result = .ok () → Furnished brought page (front ++ rest) after) := by
  induction rest generalizing front workshop with
  | nil =>
    refine ⟨.ok (), workshop, rfl, ⟨fun _ before path behind impossible => ?_, fun _ => rfl⟩,
      fun _ => ?_⟩
    · cases before <;> cases impossible
    · rw [List.append_nil]
      exact furnished
  | cons path rest ih =>
    rw [List.forall_mem_cons] at parsed
    rw [List.length_cons] at few
    unfold Workshop.composeAll
    rcases compose_furnished programs furnished parsed.1 (by omega) with
      ⟨outcome, middle, composed, fits, furnished'⟩ | ⟨failure, composed, misfit⟩
    · rw [composed]
      have longer : (front ++ [path]).length = front.length + 1 := List.length_append
      obtain ⟨result, after, composed', verdict, reached⟩ :=
        ih furnished' parsed.2 (by rw [longer]; omega)
      simp only [List.append_assoc, List.singleton_append] at verdict reached
      refine ⟨result, after, composed', verdict.trans ⟨?_, ?_⟩, reached⟩
      · intro others before other behind split
        cases before with
        | nil =>
          cases split
          rwa [List.append_nil]
        | cons first before =>
          cases split
          exact others before other behind rfl
      · intro all before other behind split
        exact all (path :: before) other behind (congrArg (path :: ·) split)
    · rw [composed]
      refine ⟨.error failure, workshop, rfl, ⟨fun impossible => ?_, fun all => ?_⟩,
        fun impossible => ?_⟩
      · cases impossible
      · refine absurd (all [] path rest rfl) ?_
        rwa [List.append_nil]
      · cases impossible

end PageSession.Session
