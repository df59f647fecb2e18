import Mathlib.Data.Set.Card
import PageSession.Proofs.Assembly.Compositions
import PageSession.Proofs.Assembly.Waiting

/-!
Modules that compose each other. One name is spelled by several paths, since an area may hold dots,
so a module may be at work at several paths at once. But a path is never twice on the stack of
initializers, and it spells the name of a module; so the stack is never deeper than there are such
paths. While no module is added, every composition that an initializer calls has fewer of them left
than the one that it is part of, and so each of them ends.
-/
namespace PageSession

/-! ## The paths that spell a name -/

namespace Page

/-- What is before and what is behind a dot, for each dot of a text. -/
def dotSplits : List Char → List (List Char × List Char)
  | [] => []
  | c :: rest =>
    (if c = '.' then [([], rest)] else []) ++
      (dotSplits rest).map fun split => (c :: split.1, split.2)

theorem mem_dotSplits_iff {text front behind : List Char} :
    (front, behind) ∈ dotSplits text ↔ text = front ++ '.' :: behind := by
  induction text generalizing front with
  | nil => simp [dotSplits]
  | cons c rest ih =>
    cases front with
    | nil => by_cases dot : c = '.' <;> simp [dotSplits, dot, eq_comm]
    | cons first front => by_cases dot : c = '.' <;> simp [dotSplits, dot, ih, and_comm, eq_comm]

/-- The paths with this dotted form, whether it is divided at its first dot or at another. -/
def NodePath.spelling (text : String) : List NodePath :=
  { area := text } :: (dotSplits text.toList).map fun split =>
    { area := String.ofList split.1, key := some (String.ofList split.2) }

theorem NodePath.mem_spelling_iff {path : NodePath} {text : String} :
    path ∈ spelling text ↔ path.text = text := by
  obtain ⟨area, key⟩ := path
  cases key with
  | none => simp [spelling, NodePath.text]
  | some key =>
    have divided : area ++ "." ++ key = text ↔
        (area.toList, key.toList) ∈ dotSplits text.toList := by
      rw [mem_dotSplits_iff, ← String.toList_inj, eq_comm]
      simp
    unfold spelling NodePath.text
    dsimp only
    rw [divided, List.mem_cons, List.mem_map]
    constructor
    · rintro (impossible | ⟨⟨front, behind⟩, listed, same⟩)
      · cases impossible
      · cases same
        simpa using listed
    · intro listed
      exact .inr ⟨_, listed, by simp⟩

end Page

namespace Assembly
open Page

variable {M S : Type}

namespace Roster

def addresses (roster : Roster M) : List NodePath :=
  roster.modules.keys.flatMap NodePath.spelling

theorem mem_addresses_iff {roster : Roster M} {path : NodePath} :
    path ∈ roster.addresses ↔ roster.contains path.text = true := by
  rw [addresses, List.mem_flatMap, contains, Table.contains_iff_mem_keys]
  constructor
  · rintro ⟨name, listed, spelled⟩
    rwa [NodePath.mem_spelling_iff.mp spelled]
  · intro listed
    exact ⟨path.text, listed, NodePath.mem_spelling_iff.mpr rfl⟩

theorem ncard_addresses (roster : Roster M) :
    {path : NodePath | roster.contains path.text = true}.ncard =
      roster.addresses.toFinset.card := by
  have same : {path : NodePath | roster.contains path.text = true} =
      ↑roster.addresses.toFinset := by
    ext path
    simp [mem_addresses_iff]
  rw [same, Set.ncard_coe_finset]

/-- How many paths that spell the name of a module are not busy. -/
def unused (roster : Roster M) (busy : List NodePath) : Nat :=
  (roster.addresses.filter fun path => path ∉ busy).length

/-- A path that becomes busy is one less to be used. -/
theorem unused_cons_lt {roster : Roster M} {busy : List NodePath} {path : NodePath}
    (known : roster.contains path.text = true) (free : path ∉ busy) :
    roster.unused (path :: busy) < roster.unused busy := by
  have fewer : roster.addresses.filter (fun other => other ∉ path :: busy) =
      (roster.addresses.filter fun other => other ∉ busy).filter fun other => other ≠ path := by
    rw [List.filter_filter]
    refine List.filter_congr fun other _ => ?_
    simp [Bool.decide_and]
  unfold unused
  rw [fewer, List.length_filter_lt_length_iff_exists]
  refine ⟨path, List.mem_filter.mpr ⟨mem_addresses_iff.mpr known, ?_⟩, ?_⟩
  · exact decide_eq_true free
  · simp

end Roster

/-! ## How deep the stack is -/

namespace Composing
variable {behave : Behaviour M S} {path : NodePath} {stack : List (Waiting M S)}
  {before : Workshop M S}

theorem not_mem_of_free {busy : List NodePath} (free : Workshop.isBusy busy path = false) :
    path ∉ busy := by
  intro listed
  have taken := (isBusy_iff busy path).mpr ⟨path, listed, .inl rfl⟩
  cases free.symm.trans taken

/-- An initializer that starts is that of a registered path for which none runs. -/
theorem step_composing (behave : Behaviour M S) (c : Composing M S) :
    (c.step behave).composing = c.composing ∨
      (∃ path, path ∉ c.composing ∧ c.workshop.roster.contains path.text = true ∧
        (c.step behave).composing = path :: c.composing) ∨
      ∃ path, c.composing = path :: (c.step behave).composing := by
  obtain ⟨control, stack, workshop⟩ := c
  cases control with
  | compose path =>
    show (compose behave path workshop stack).composing = _ ∨ (∃ other, _ ∧ _ ∧
      (compose behave path workshop stack).composing = _) ∨ ∃ other, _ =
        other :: (compose behave path workshop stack).composing
    have first := begins behave path workshop stack
    generalize compose behave path workshop stack = c at first
    cases first with
    | refused | vacant | plain => exact .inl rfl
    | initializing free known let_in attached starts =>
      exact .inr (.inl ⟨path, not_mem_of_free free, Roster.contains_of_resolve known, rfl⟩)
  | run path object program =>
    cases program with
    | finish | fail => exact .inr (.inr ⟨path, rfl⟩)
    | compose | register | look | use => exact .inl rfl
  | answer result => cases stack <;> exact .inl rfl

/-- The paths on the stack are distinct and spell the names of modules. -/
structure Climbs (c : Composing M S) : Prop where
  distinct : c.composing.Nodup
  known : ∀ path ∈ c.composing, c.workshop.roster.contains path.text = true

theorem Climbs.step {c : Composing M S} (climbs : c.Climbs) (behave : Behaviour M S) :
    (c.step behave).Climbs := by
  have more {name : String} (known : c.workshop.roster.contains name = true) :=
    contains_of_step behave c known
  rcases step_composing behave c with same | ⟨path, fresh, known, pushed⟩ | ⟨path, popped⟩
  · exact ⟨by rw [same]; exact climbs.distinct, fun path listed =>
      more (climbs.known path (same ▸ listed))⟩
  · refine ⟨?_, fun other listed => ?_⟩
    · rw [pushed]
      exact List.nodup_cons.mpr ⟨fresh, climbs.distinct⟩
    · rw [pushed] at listed
      rcases List.mem_cons.mp listed with rfl | earlier
      · exact more known
      · exact more (climbs.known other earlier)
  · have distinct := climbs.distinct
    rw [popped] at distinct
    refine ⟨(List.nodup_cons.mp distinct).2, fun other listed => more (climbs.known other ?_)⟩
    rw [popped]
    exact List.mem_cons_of_mem _ listed

theorem Climbs.run {c : Composing M S} (climbs : c.Climbs) (behave : Behaviour M S)
    (budget : Nat) : (c.run behave budget).Climbs := by
  induction budget generalizing c with
  | zero => exact climbs
  | succ budget ih =>
    unfold Composing.run
    split
    · exact climbs
    · exact ih (climbs.step behave)

theorem Climbs.depth_le {c : Composing M S} (climbs : c.Climbs) :
    c.composing.length ≤
      {path : NodePath | c.workshop.roster.contains path.text = true}.ncard := by
  rw [Roster.ncard_addresses, ← List.toFinset_card_of_nodup climbs.distinct]
  refine Finset.card_le_card fun path listed => ?_
  rw [List.mem_toFinset] at listed ⊢
  exact Roster.mem_addresses_iff.mpr (climbs.known path listed)

/-! ## Every composition ends -/

/-- An initializer ends if the compositions that it calls do. -/
theorem ends_of_called {object : Object M} (program : Initializer M S) {workshop : Workshop M S}
    (during : During behave path stack before
      { control := .run path object program, stack, workshop })
    (called : ∀ inner next middle, During behave path stack before
        { control := .compose inner, stack := { path, object, next } :: stack
          workshop := middle } →
      ∃ result last, Ends behave inner ({ path, object, next } :: stack) middle result last) :
    ∃ result last, Ends behave path stack before result last := by
  have onward := during.step rfl
  induction program generalizing workshop with
  | finish => exact ⟨.ok .attached, _, onward, if_pos (Nat.le_refl _)⟩
  | fail cause =>
    exact ⟨.error (.initializer path.text cause), _, onward, if_pos (Nat.le_refl _)⟩
  | compose inner next ih =>
    obtain ⟨result, last, ends⟩ := called inner next workshop onward
    have above : last.answer? stack.length = none := by
      refine answer?_eq_none ?_
      rw [ends.stack_eq, List.length_cons]
      exact Nat.lt_succ_self _
    have resumed := (onward.inside ends.1).step above
    rw [ends.eq_give] at resumed
    exact ih result resumed (resumed.step rfl)
  | register m next ih => exact ih _ onward (onward.step rfl)
  | look next ih => exact ih _ onward (onward.step rfl)
  | use effect next ih => exact ih _ onward (onward.step rfl)

/-- While the roster stays as it is, a composition ends: those that its initializer calls have
fewer paths left to use. -/
theorem ends_of_kept (roster : Roster M) (left : Nat) {path : NodePath}
    {stack : List (Waiting M S)} {before : Workshop M S}
    (kept : ∀ c, During behave path stack before c → c.workshop.roster = roster)
    (enough : roster.unused (stack.map Waiting.path) ≤ left) :
    ∃ result last, Ends behave path stack before result last := by
  induction left using Nat.strong_induction_on generalizing path stack before with
  | _ left ih =>
    have during : During behave path stack before (compose behave path before stack) :=
      During.begun.step rfl
    have first := begins behave path before stack
    generalize compose behave path before stack = c at during first
    cases first with
    | refused | vacant | plain => exact ⟨_, _, during, if_pos (Nat.le_refl _)⟩
    | @initializing m tree program free known let_in attached starts =>
      refine ends_of_called program during fun inner next middle outer => ?_
      have registered : roster.contains path.text = true := by
        rw [← kept _ .begun]
        exact Roster.contains_of_resolve known
      have fewer := Roster.unused_cons_lt registered (not_mem_of_free free)
      exact ih _ (Nat.lt_of_lt_of_le fewer enough)
        (fun c inside => kept c (outer.inside inside)) (Nat.le_refl _)

/-! ## Initializers that register nothing -/

end Composing

def Initializer.RegistersNothing : Initializer M S → Prop
  | .finish | .fail _ => True
  | .compose _ next => ∀ result, (next result).RegistersNothing
  | .register _ _ => False
  | .look next => ∀ view, (next view).RegistersNothing
  | .use _ next => ∀ services, (next services).RegistersNothing

namespace Composing
variable {behave : Behaviour M S}

/-- The initializers in progress register no module. -/
structure IsQuiet (c : Composing M S) : Prop where
  running : ∀ path object program, c.control = .run path object program →
    program.RegistersNothing
  waiting : ∀ waiting ∈ c.stack, ∀ result, (waiting.next result).RegistersNothing

theorem IsQuiet.step {c : Composing M S} (quiet : c.IsQuiet)
    (unchanging : ∀ object program, behave.initializer object = some program →
      program.RegistersNothing) :
    (c.step behave).IsQuiet ∧ (c.step behave).workshop.roster = c.workshop.roster := by
  obtain ⟨control, stack, workshop⟩ := c
  cases control with
  | compose path =>
    show (compose behave path workshop stack).IsQuiet ∧
      (compose behave path workshop stack).workshop.roster = workshop.roster
    refine ⟨?_, compose_roster behave path workshop stack⟩
    have first := begins behave path workshop stack
    generalize compose behave path workshop stack = c at first
    cases first with
    | refused | vacant | plain => exact ⟨fun _ _ _ same => (by cases same), quiet.waiting⟩
    | initializing free known let_in attached starts =>
      refine ⟨fun _ _ _ same => ?_, quiet.waiting⟩
      cases same
      exact unchanging _ _ starts
  | run path object program =>
    have silent := quiet.running path object program rfl
    cases program with
    | finish | fail => exact ⟨⟨fun _ _ _ same => (by cases same), quiet.waiting⟩, rfl⟩
    | compose inner next =>
      refine ⟨⟨fun _ _ _ same => (by cases same), fun waiting listed => ?_⟩, rfl⟩
      rcases List.mem_cons.mp listed with rfl | earlier
      · exact silent
      · exact quiet.waiting waiting earlier
    | register m next => exact silent.elim
    | look next =>
      refine ⟨⟨fun _ _ _ same => ?_, quiet.waiting⟩, rfl⟩
      cases same
      exact silent _
    | use effect next =>
      refine ⟨⟨fun _ _ _ same => ?_, quiet.waiting⟩, rfl⟩
      cases same
      exact silent _
  | answer result =>
    cases stack with
    | nil => exact ⟨quiet, rfl⟩
    | cons waiting stack =>
      refine ⟨⟨fun _ _ _ same => ?_, fun other listed => ?_⟩, rfl⟩
      · cases same
        exact quiet.waiting waiting (List.mem_cons_self ..) result
      · exact quiet.waiting other (List.mem_cons_of_mem _ listed)

theorem IsQuiet.run {c : Composing M S} (quiet : c.IsQuiet)
    (unchanging : ∀ object program, behave.initializer object = some program →
      program.RegistersNothing) (budget : Nat) :
    (c.run behave budget).workshop.roster = c.workshop.roster := by
  induction budget generalizing c with
  | zero => rfl
  | succ budget ih =>
    obtain ⟨quiet', same⟩ := quiet.step unchanging
    unfold Composing.run
    split
    · rfl
    · exact (ih quiet').trans same

end Composing

/-- Initializers that register nothing leave the roster as it is. -/
theorem Workshop.compose_roster {behave : Behaviour M S}
    (unchanging : ∀ object program, behave.initializer object = some program →
      program.RegistersNothing) (budget : Nat) (workshop : Workshop M S) (path : NodePath) :
    (workshop.compose behave budget path).2.roster = workshop.roster := by
  have quiet : Composing.IsQuiet (S := S) { control := .compose path, workshop } :=
    ⟨fun _ _ _ same => (by cases same), fun _ listed => (by cases listed)⟩
  exact quiet.run unchanging budget

/-- As long as initializers add no module, composing a path comes to a result, whatever they
compose. At every moment there are at most as many of them at work as there are paths that spell the
name of a module. -/
theorem cyclic_composition_ends {behave : Behaviour M S} {workshop : Workshop M S}
    {path : NodePath}
    (kept : ∀ budget, (workshop.compose behave budget path).2.roster = workshop.roster) :
    (∃ enough result after, ∀ budget, enough ≤ budget →
      workshop.compose behave budget path = (some result, after)) ∧
    ∀ budget,
      (Composing.run behave budget { control := .compose path, workshop }).composing.length ≤
        {path : NodePath | workshop.roster.contains path.text = true}.ncard := by
  constructor
  · have same : ∀ c, Composing.During behave path [] workshop c →
        c.workshop.roster = workshop.roster := by
      intro c during
      obtain ⟨budget, rfl⟩ := during.exists_run
      exact kept budget
    obtain ⟨result, last, ends⟩ := Composing.ends_of_kept workshop.roster _ same (Nat.le_refl _)
    obtain ⟨enough, composed⟩ := Workshop.compose_of_ends ends
    exact ⟨enough, result, last.workshop, composed⟩
  · intro budget
    have nobody : Composing.Climbs (S := S) { control := .compose path, workshop } :=
      ⟨List.nodup_nil, fun _ listed => by cases listed⟩
    have bound := (nobody.run behave budget).depth_le
    rwa [show (Composing.run behave budget _).workshop.roster = workshop.roster from
      kept budget] at bound

/-- Two modules that compose each other under every path that spells them. -/
def entangled : Behaviour String Unit where
  construct _ services := services
  initializer _ :=
    some (.compose { area := "a" } fun _ => .compose { area := "a", key := some "b" } fun _ =>
      .compose { area := "a.b" } fun _ => .finish)

/-- The modules of an area and of its key, of which the key is also spelled as an area. -/
def entanglement : Workshop String Unit where
  roster.modules := (Table.insert {} "a" { name := "a", body := "area" }).insert "a.b"
    { name := "a.b", body := "key" }
  services := ()

/-- Three paths spell the names of the two modules, and all three initializers come to be at
work. -/
theorem cyclic_composition_ends_entangled :
    (∃ enough result after, ∀ budget, enough ≤ budget →
      entanglement.compose entangled budget { area := "a" } = (some result, after)) ∧
    (∀ budget, (Composing.run entangled budget
        { control := .compose { area := "a" }, workshop := entanglement }).composing.length ≤ 3) ∧
    ∃ budget,
      (Composing.run entangled budget
        { control := .compose { area := "a" }, workshop := entanglement }).composing.length = 3 := by
  have unchanging : ∀ object program, entangled.initializer object = some program →
      program.RegistersNothing := by
    intro object program same
    cases same
    exact fun _ _ _ => trivial
  have ended := cyclic_composition_ends fun budget =>
    Workshop.compose_roster unchanging budget entanglement { area := "a" }
  have three : {path : NodePath | entanglement.roster.contains path.text = true}.ncard = 3 := by
    rw [Roster.ncard_addresses]
    decide +kernel
  rw [three] at ended
  exact ⟨ended.1, ended.2, 14, by decide +kernel⟩

end Assembly
end PageSession
