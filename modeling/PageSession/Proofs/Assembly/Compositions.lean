import PageSession.Proofs.Assembly.Initializing

/-!
One composition, from its beginning to its answer. It works on top of the initializers that wait for
it and gives the stack back as it has found it. Between the moment at which its object is attached
and the moment at which its own initializer ends, nothing touches the tree but the compositions that
this initializer calls, and each of them is again such a composition.
-/
namespace PageSession.Assembly
open Page

variable {M S : Type}

/-! ## The first step -/

theorem Roster.resolve_error {roster : Roster M} {name : String} {failure : Failure}
    (unknown : roster.resolve name = .error failure) :
    failure = .notFound name ∧ roster.contains name = false := by
  unfold resolve at unknown
  split at unknown
  · cases unknown
  · rename_i missing
    cases unknown
    exact ⟨rfl, (Table.contains_eq_false_iff _ _).mpr missing⟩

theorem Roster.contains_of_resolve {roster : Roster M} {name : String} {m : Module M}
    (known : roster.resolve name = .ok m) : roster.contains name = true := by
  unfold resolve at known
  split at known
  · rename_i found
    rw [contains, Table.contains_eq_isSome, found]
    rfl
  · cases known

namespace Workshop

def nextObject (workshop : Workshop M S) (m : Module M) : Object M :=
  { serial := workshop.made, body := m.body }

/-- The workshop after a module has been constructed and its object attached. -/
def built (behave : Behaviour M S) (workshop : Workshop M S) (m : Module M)
    (tree : Tree (Object M)) : Workshop M S :=
  { (workshop.construct behave m).2 with tree }

/-- Why a path is refused before anything is attached at it. -/
inductive Refuses (workshop : Workshop M S) (busy : List NodePath) (path : NodePath) :
    Failure → Prop
  | busy (taken : isBusy busy path = true) : Refuses workshop busy path (.reentrant path.text)
  | unknown (absent : workshop.roster.contains path.text = false) :
      Refuses workshop busy path (.notFound path.text)
  | orphan (nested : path.isNested = true)
      (missing : workshop.tree.contains { area := path.area } = false) :
      Refuses workshop busy path (.parentMissing path.area (path.key.getD ""))

/-- A refusal is no failure of an initializer. -/
theorem Refuses.ne_initializer {workshop : Workshop M S} {busy : List NodePath} {path : NodePath}
    {failure : Failure} (refuses : workshop.Refuses busy path failure) (other : String)
    (cause : Cause) : failure ≠ .initializer other cause := by
  cases refuses <;> exact fun impossible => by cases impossible

end Workshop

namespace Composing
variable {behave : Behaviour M S} {path : NodePath} {stack : List (Waiting M S)}
  {before : Workshop M S}

/-- How the composition of a path can begin. -/
inductive Begins (behave : Behaviour M S) (path : NodePath) (workshop : Workshop M S)
    (stack : List (Waiting M S)) : Composing M S → Prop
  | refused {failure : Failure}
      (refuses : workshop.Refuses (stack.map Waiting.path) path failure) :
      Begins behave path workshop stack (give (.error failure) workshop stack)
  | vacant {m : Module M} {tree : Tree (Object M)}
      (free : Workshop.isBusy (stack.map Waiting.path) path = false)
      (known : workshop.roster.resolve path.text = .ok m)
      (shut : m.guard.all (fun guard => guard.allows workshop.page) = false)
      (attached : workshop.tree.attach path none = .ok tree) :
      Begins behave path workshop stack (give (.ok .vacant) { workshop with tree } stack)
  | plain {m : Module M} {tree : Tree (Object M)}
      (free : Workshop.isBusy (stack.map Waiting.path) path = false)
      (known : workshop.roster.resolve path.text = .ok m)
      (let_in : m.guard.all (fun guard => guard.allows workshop.page) = true)
      (attached : workshop.tree.attach path (some (workshop.nextObject m)) = .ok tree)
      (idle : behave.initializer (workshop.nextObject m) = none) :
      Begins behave path workshop stack (give (.ok .attached) (workshop.built behave m tree) stack)
  | initializing {m : Module M} {tree : Tree (Object M)} {program : Initializer M S}
      (free : Workshop.isBusy (stack.map Waiting.path) path = false)
      (known : workshop.roster.resolve path.text = .ok m)
      (let_in : m.guard.all (fun guard => guard.allows workshop.page) = true)
      (attached : workshop.tree.attach path (some (workshop.nextObject m)) = .ok tree)
      (starts : behave.initializer (workshop.nextObject m) = some program) :
      Begins behave path workshop stack
        { control := .run path (workshop.nextObject m) program, stack
          workshop := workshop.built behave m tree }

/-- A composition begins in one of these ways; what its parent is there for can be attached. -/
theorem begins (behave : Behaviour M S) (path : NodePath) (workshop : Workshop M S)
    (stack : List (Waiting M S)) :
    Begins behave path workshop stack (compose behave path workshop stack) := by
  unfold compose
  split
  · rename_i taken
    exact .refused (.busy taken)
  · rename_i free
    rw [Bool.not_eq_true] at free
    cases known : workshop.roster.resolve path.text with
    | error failure =>
      obtain ⟨rfl, absent⟩ := Roster.resolve_error known
      exact .refused (.unknown absent)
    | ok m =>
      dsimp only
      split
      · rename_i orphan
        rw [Bool.and_eq_true, Bool.not_eq_true'] at orphan
        exact .refused (.orphan orphan.1 orphan.2)
      · rename_i rooted
        split
        · rename_i let_in
          obtain ⟨tree, attached⟩ := Tree.attach_rooted rooted (some (workshop.nextObject m))
          have placed : (workshop.construct behave m).2.attach path
              (some (workshop.nextObject m)) = .ok (workshop.built behave m tree) := by
            show (workshop.tree.attach path _).map _ = _
            rw [attached]
            rfl
          unfold build
          dsimp only
          rw [show (workshop.construct behave m).1 = workshop.nextObject m from rfl, placed]
          dsimp only
          cases starts : behave.initializer (workshop.nextObject m) with
          | none => exact .plain free known let_in attached starts
          | some program => exact .initializing free known let_in attached starts
        · rename_i shut
          rw [Bool.not_eq_true] at shut
          obtain ⟨tree, attached⟩ := Tree.attach_rooted rooted none
          have placed : workshop.attach path none = .ok { workshop with tree } := by
            unfold Workshop.attach
            rw [attached]
            rfl
          rw [placed]
          exact .vacant free known shut attached

/-! ## From the beginning to the answer -/

/-- The answer to a composition for which so many initializers wait. -/
def answer? (depth : Nat) (c : Composing M S) : Option (Except Failure Outcome) :=
  match c.control with
  | .answer result => if c.stack.length ≤ depth then some result else none
  | _ => none

/-- What a composition comes to from its beginning on, until it has its answer. -/
inductive During (behave : Behaviour M S) (path : NodePath) (stack : List (Waiting M S))
    (before : Workshop M S) : Composing M S → Prop
  | begun : During behave path stack before { control := .compose path, stack, workshop := before }
  | step {c : Composing M S} (earlier : During behave path stack before c)
      (unanswered : c.answer? stack.length = none) :
      During behave path stack before (c.step behave)

def Ends (behave : Behaviour M S) (path : NodePath) (stack : List (Waiting M S))
    (before : Workshop M S) (result : Except Failure Outcome) (last : Composing M S) : Prop :=
  During behave path stack before last ∧ last.answer? stack.length = some result

theorem answer?_eq_some {depth : Nat} {c : Composing M S} {result : Except Failure Outcome}
    (answered : c.answer? depth = some result) :
    c.control = .answer result ∧ c.stack.length ≤ depth := by
  obtain ⟨control, stack, workshop⟩ := c
  cases control with
  | compose | run => cases answered
  | answer given =>
    unfold answer? at answered
    dsimp only at answered
    split at answered
    · rename_i shallow
      cases answered
      exact ⟨rfl, shallow⟩
    · cases answered

/-- Whoever is above others has not answered them. -/
theorem answer?_eq_none {depth : Nat} {c : Composing M S} (deep : depth < c.stack.length) :
    c.answer? depth = none := by
  cases answered : c.answer? depth with
  | none => rfl
  | some result =>
    have shallow := (answer?_eq_some answered).2
    omega

/-- The stack grows by an initializer that calls a composition, and loses one that gets its
answer. -/
theorem step_stack (behave : Behaviour M S) (c : Composing M S) :
    (c.step behave).stack = c.stack ∨ (∃ waiting, (c.step behave).stack = waiting :: c.stack) ∨
      ∃ waiting result, c.control = .answer result ∧
        c.stack = waiting :: (c.step behave).stack := by
  obtain ⟨control, stack, workshop⟩ := c
  cases control with
  | compose path =>
    left
    show (compose behave path workshop stack).stack = stack
    have first := begins behave path workshop stack
    generalize compose behave path workshop stack = c at first
    cases first <;> rfl
  | run path object program =>
    cases program with
    | compose inner next => exact .inr (.inl ⟨{ path, object, next }, rfl⟩)
    | finish | fail | register | look | use => exact .inl rfl
  | answer result =>
    cases stack with
    | nil => exact .inl rfl
    | cons waiting stack => exact .inr (.inr ⟨waiting, result, rfl, rfl⟩)

/-- A composition leaves the initializers below it alone. -/
theorem During.suffix {c : Composing M S} (during : During behave path stack before c) :
    stack <:+ c.stack := by
  induction during with
  | begun => exact List.suffix_rfl
  | @step c earlier unanswered ih =>
    rcases step_stack behave c with same | ⟨waiting, pushed⟩ | ⟨waiting, result, answer, popped⟩
    · rwa [same]
    · rw [pushed]
      exact ih.trans (List.suffix_cons _ _)
    · -- an answer that is not the last one is given to an initializer above
      have deep : stack.length < c.stack.length := by
        by_contra shallow
        unfold answer? at unanswered
        rw [answer] at unanswered
        dsimp only at unanswered
        rw [if_pos (Nat.le_of_not_lt shallow)] at unanswered
        cases unanswered
      rw [popped] at ih deep
      rcases List.suffix_cons_iff.mp ih with whole | rest
      · rw [whole, List.length_cons] at deep
        omega
      · exact rest

theorem Ends.stack_eq {result : Except Failure Outcome} {last : Composing M S}
    (ends : Ends behave path stack before result last) : last.stack = stack :=
  (ends.1.suffix.eq_of_length_le (answer?_eq_some ends.2).2).symm

theorem Ends.eq_give {result : Except Failure Outcome} {last : Composing M S}
    (ends : Ends behave path stack before result last) :
    last = give result last.workshop stack := by
  obtain ⟨control, stack', workshop⟩ := last
  have answer := (answer?_eq_some ends.2).1
  have same := ends.stack_eq
  dsimp only at answer same
  rw [answer, same]
  rfl

/-- What a called composition comes to is a part of what the calling one comes to. -/
theorem During.inside {object : Object M} {inner : NodePath}
    {next : Except Failure Outcome → Initializer M S} {middle : Workshop M S}
    (outer : During behave path stack before
      { control := .compose inner, stack := { path, object, next } :: stack, workshop := middle })
    {c : Composing M S} (during : During behave inner ({ path, object, next } :: stack) middle c) :
    During behave path stack before c := by
  induction during with
  | begun => exact outer
  | @step c earlier unanswered ih =>
    refine ih.step (answer?_eq_none ?_)
    have deep := earlier.suffix.length_le
    rw [List.length_cons] at deep
    omega

/-! ## What an initializer does -/

/-- What an initializer comes to, from its program and a workshop on: each composition that it calls
is a whole one, and nothing else that it does touches the tree. -/
inductive Runs (behave : Behaviour M S) (path : NodePath) (object : Object M)
    (stack : List (Waiting M S)) (first : Initializer M S) (start : Workshop M S) :
    Initializer M S → Workshop M S → Prop
  | start : Runs behave path object stack first start first start
  | compose {inner : NodePath} {next : Except Failure Outcome → Initializer M S}
      {middle : Workshop M S} {result : Except Failure Outcome} {last : Composing M S}
      (earlier : Runs behave path object stack first start (.compose inner next) middle)
      (ends : Ends behave inner ({ path, object, next } :: stack) middle result last) :
      Runs behave path object stack first start (next result) last.workshop
  | register {m : Module M} {next : Except Failure Unit → Initializer M S} {middle : Workshop M S}
      (earlier : Runs behave path object stack first start (.register m next) middle) :
      Runs behave path object stack first start (next (middle.register m).1) (middle.register m).2
  | look {next : View M → Initializer M S} {middle : Workshop M S}
      (earlier : Runs behave path object stack first start (.look next) middle) :
      Runs behave path object stack first start
        (next { path, object, tree := middle.tree, page := middle.page }) middle
  | use {effect : S → S} {next : S → Initializer M S} {middle : Workshop M S}
      (earlier : Runs behave path object stack first start (.use effect next) middle) :
      Runs behave path object stack first start (next middle.services)
        { middle with services := effect middle.services }

/-- The object of a path has been attached, and its initializer has come to this program and this
workshop. -/
inductive Initializes (behave : Behaviour M S) (path : NodePath) (stack : List (Waiting M S))
    (before : Workshop M S) : Object M → Initializer M S → Workshop M S → Prop
  | intro {m : Module M} {tree : Tree (Object M)} {first program : Initializer M S}
      {workshop : Workshop M S} (known : before.roster.resolve path.text = .ok m)
      (attached : before.tree.attach path (some (before.nextObject m)) = .ok tree)
      (starts : behave.initializer (before.nextObject m) = some first)
      (runs : Runs behave path (before.nextObject m) stack first (before.built behave m tree)
        program workshop) :
      Initializes behave path stack before (before.nextObject m) program workshop

/-- How far the composition of a path has come. -/
inductive Stands (behave : Behaviour M S) (path : NodePath) (stack : List (Waiting M S))
    (before : Workshop M S) : Composing M S → Prop
  | begun : Stands behave path stack before { control := .compose path, stack, workshop := before }
  | refused {failure : Failure} (refuses : before.Refuses (stack.map Waiting.path) path failure) :
      Stands behave path stack before (give (.error failure) before stack)
  | vacant {tree : Tree (Object M)} (attached : before.tree.attach path none = .ok tree) :
      Stands behave path stack before (give (.ok .vacant) { before with tree } stack)
  | plain {m : Module M} {tree : Tree (Object M)}
      (attached : before.tree.attach path (some (before.nextObject m)) = .ok tree)
      (idle : behave.initializer (before.nextObject m) = none) :
      Stands behave path stack before (give (.ok .attached) (before.built behave m tree) stack)
  | initializing {object : Object M} {program : Initializer M S} {workshop : Workshop M S}
      (come : Initializes behave path stack before object program workshop) :
      Stands behave path stack before { control := .run path object program, stack, workshop }
  | inside {object : Object M} {inner : NodePath}
      {next : Except Failure Outcome → Initializer M S} {middle : Workshop M S}
      (come : Initializes behave path stack before object (.compose inner next) middle)
      {c : Composing M S}
      (during : During behave inner ({ path, object, next } :: stack) middle c) :
      Stands behave path stack before c
  | finished {object : Object M} {workshop : Workshop M S}
      (come : Initializes behave path stack before object .finish workshop) :
      Stands behave path stack before (give (.ok .attached) workshop stack)
  | failed {object : Object M} {cause : Cause} {workshop : Workshop M S}
      (come : Initializes behave path stack before object (.fail cause) workshop) :
      Stands behave path stack before (give (.error (.initializer path.text cause))
        { workshop with tree := workshop.tree.detach path } stack)

/-- One step of the initializer of the path itself. -/
theorem advance_stands {object : Object M} {program : Initializer M S} {workshop : Workshop M S}
    (come : Initializes behave path stack before object program workshop) :
    Stands behave path stack before (advance path object program workshop stack) := by
  obtain ⟨known, attached, starts, runs⟩ := come
  cases program with
  | finish => exact .finished ⟨known, attached, starts, runs⟩
  | fail cause => exact .failed ⟨known, attached, starts, runs⟩
  | compose inner next => exact .inside ⟨known, attached, starts, runs⟩ .begun
  | register m next => exact .initializing ⟨known, attached, starts, runs.register⟩
  | look next => exact .initializing ⟨known, attached, starts, runs.look⟩
  | use effect next => exact .initializing ⟨known, attached, starts, runs.use⟩

/-- The first step of a composition. -/
theorem compose_stands (behave : Behaviour M S) (path : NodePath) (stack : List (Waiting M S))
    (before : Workshop M S) :
    Stands behave path stack before (compose behave path before stack) := by
  have first := begins behave path before stack
  generalize compose behave path before stack = c at first
  cases first with
  | refused refuses => exact .refused refuses
  | vacant free known shut attached => exact .vacant attached
  | plain free known let_in attached idle => exact .plain attached idle
  | initializing free known let_in attached starts =>
    exact .initializing ⟨known, attached, starts, .start⟩

/-- Whatever a composition has come to, it stands at one of these places. -/
theorem During.stands {c : Composing M S} (during : During behave path stack before c) :
    Stands behave path stack before c := by
  have given (result : Except Failure Outcome) (workshop : Workshop M S) :
      (give result workshop stack).answer? stack.length = some result :=
    if_pos (Nat.le_refl _)
  induction during with
  | begun => exact .begun
  | @step c earlier unanswered ih =>
    cases ih with
    | begun => exact compose_stands behave path stack before
    | initializing come => exact advance_stands come
    | @inside object inner next middle come c during =>
      cases answered : c.answer? (stack.length + 1) with
      | none => exact .inside come (during.step answered)
      | some result =>
        -- the called composition ends, and the initializer goes on with its result
        have ends : Ends behave inner ({ path, object, next } :: stack) middle result c :=
          ⟨during, answered⟩
        have resumed : c.step behave =
            { control := .run path object (next result), stack, workshop := c.workshop } := by
          rw [ends.eq_give]
          rfl
        obtain ⟨known, attached, starts, runs⟩ := come
        rw [resumed]
        exact .initializing ⟨known, attached, starts, runs.compose ends⟩
    | refused | vacant | plain | finished | failed =>
      rw [given] at unanswered
      cases unanswered

/-! ## Whole compositions -/

theorem result?_eq_answer? (c : Composing M S) : c.result? = c.answer? 0 := by
  obtain ⟨control, stack, workshop⟩ := c
  cases control <;> cases stack <;> rfl

theorem run_of_result {c : Composing M S} (ended : c.result?.isSome = true) (budget : Nat) :
    run behave budget c = c := by
  cases budget with
  | zero => rfl
  | succ budget => rw [run, if_pos ended]

theorem run_add (behave : Behaviour M S) (budget further : Nat) (c : Composing M S) :
    run behave (budget + further) c = run behave further (run behave budget c) := by
  induction budget generalizing c with
  | zero => rw [Nat.zero_add, run]
  | succ budget ih =>
    rw [Nat.succ_add, run, run]
    split
    · rename_i ended
      rw [run_of_result ended]
    · exact ih _

/-- A run is a part of the composition that it runs. -/
theorem During.run {workshop : Workshop M S} {c : Composing M S}
    (during : During behave path [] workshop c) (budget : Nat) :
    During behave path [] workshop (run behave budget c) := by
  induction budget generalizing c with
  | zero => exact during
  | succ budget ih =>
    unfold Composing.run
    split
    · exact during
    · rename_i unanswered
      rw [Bool.not_eq_true, Option.isSome_eq_false_iff, Option.isNone_iff_eq_none,
        result?_eq_answer?] at unanswered
      exact ih (during.step unanswered)

/-- Whatever a composition comes to, a run comes to it. -/
theorem During.exists_run {workshop : Workshop M S} {c : Composing M S}
    (during : During behave path [] workshop c) :
    ∃ budget, Composing.run behave budget { control := .compose path, workshop } = c := by
  induction during with
  | begun => exact ⟨0, rfl⟩
  | @step c earlier unanswered ih =>
    obtain ⟨budget, come⟩ := ih
    rw [List.length_nil, ← result?_eq_answer?] at unanswered
    refine ⟨budget + 1, ?_⟩
    rw [run_add, come, Composing.run, unanswered]
    rfl

end Composing

/-- Whatever comes of composing a path, it is the end of a composition for which nobody waits. -/
theorem Workshop.ends_of_compose {behave : Behaviour M S} {budget : Nat} {workshop : Workshop M S}
    {path : NodePath} {result : Except Failure Outcome} {after : Workshop M S}
    (composed : workshop.compose behave budget path = (some result, after)) :
    ∃ last, Composing.Ends behave path [] workshop result last ∧ last.workshop = after := by
  refine ⟨_, ⟨Composing.During.begun.run budget, ?_⟩, congrArg Prod.snd composed⟩
  have answered := congrArg Prod.fst composed
  dsimp only [Workshop.compose] at answered
  rwa [Composing.result?_eq_answer?] at answered

/-- A composition for which nobody waits is composed with enough steps, and further steps change
nothing. -/
theorem Workshop.compose_of_ends {behave : Behaviour M S} {workshop : Workshop M S}
    {path : NodePath} {result : Except Failure Outcome} {last : Composing M S}
    (ends : Composing.Ends behave path [] workshop result last) :
    ∃ enough, ∀ budget, enough ≤ budget →
      workshop.compose behave budget path = (some result, last.workshop) := by
  obtain ⟨enough, come⟩ := ends.1.exists_run
  have answered : last.result? = some result := (Composing.result?_eq_answer? last).trans ends.2
  refine ⟨enough, fun budget larger => ?_⟩
  obtain ⟨further, rfl⟩ := Nat.exists_eq_add_of_le larger
  have come_to : Composing.run behave (enough + further) { control := .compose path, workshop } =
      last := by
    rw [Composing.run_add, come, Composing.run_of_result (Option.isSome_of_eq_some answered)]
  unfold Workshop.compose
  rw [come_to]
  exact congrArg (·, last.workshop) answered

end PageSession.Assembly
