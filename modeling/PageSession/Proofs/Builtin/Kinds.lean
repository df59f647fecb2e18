import PageSession.Builtin.Kind
import PageSession.Proofs.Assembly.Deliverables
import PageSession.Proofs.Page.Paths

/-!
The built-in modules as they are loaded and composed. A kind is known by its locator, by its name
and by its path; its loader registers one module at once or fails at once, so that the verdict on
loads applies to it.
-/
namespace PageSession.Builtin
open Page Assembly

namespace Kind

def path : Kind → NodePath
  | .home => { area := "home" }
  | .admin => { area := "admin" }
  | .users => { area := "admin", key := some "users" }

@[simp] theorem ofText?_name (kind : Kind) : NodePath.ofText? kind.name = some kind.path := by
  cases kind <;> decide +kernel

theorem text_path (kind : Kind) : kind.path.text = kind.name :=
  NodePath.text_of_ofText? (ofText?_name kind)

/-- A path that was read and has the name of a kind is the path of this kind. -/
theorem eq_path {kind : Kind} {path : NodePath}
    (parsed : ∃ text, NodePath.ofText? text = some path) (named : path.text = kind.name) :
    path = kind.path := by
  obtain ⟨text, read⟩ := parsed
  rw [← NodePath.text_of_ofText? read, named, ofText?_name] at read
  exact (Option.some.inj read).symm

theorem path_injective {kind other : Kind} (same : kind.path = other.path) : kind = other := by
  revert same
  cases kind <;> cases other <;> decide

theorem name_injective {kind other : Kind} (same : kind.name = other.name) : kind = other := by
  revert same
  cases kind <;> cases other <;> decide

/-- Only the locator of a kind leads to it. -/
theorem ofLocator?_eq_some_iff (locator : String) (kind : Kind) :
    ofLocator? locator = some kind ↔ locator = kind.locator := by
  unfold ofLocator?
  constructor
  · intro found
    have led := List.find?_some found
    exact (of_decide_eq_true led).symm
  · rintro rfl
    cases kind <;> decide +kernel

end Kind

variable {M : Type}

def source (embed : Kind → M) (resource : Resource) : Option (Module M) :=
  (Kind.ofLocator? resource.locator).map (moduleOf embed)

def excuse (resource : Resource) : Failure :=
  .resource resource.name ("no built-in resource at " ++ resource.locator)

theorem loader_eq (embed : Kind → M) : loader embed = delivering (source embed) excuse := by
  funext resource
  unfold loader delivering source
  cases Kind.ofLocator? resource.locator <;> rfl

theorem source_eq_some_iff (embed : Kind → M) (resource : Resource) (m : Module M) :
    source embed resource = some m ↔
      ∃ kind : Kind, resource.locator = kind.locator ∧ m = moduleOf embed kind := by
  unfold source
  rw [Option.map_eq_some_iff]
  refine exists_congr fun kind => ?_
  rw [Kind.ofLocator?_eq_some_iff]
  exact and_congr_right fun _ => eq_comm

def Brought (resources : List Resource) (kind : Kind) : Prop :=
  kind.locator ∈ resources.map Resource.locator

/-- These resources can be loaded together. -/
structure Loadable (resources : List Resource) : Prop where
  /-- Every locator is that of a built-in module. -/
  known : ∀ resource ∈ resources, ∃ kind : Kind, resource.locator = kind.locator
  /-- No two resources share a locator. -/
  apart : (resources.map Resource.locator).Nodup
  /-- Every resource is named like a module that one of them brings. -/
  named : ∀ resource ∈ resources, ∃ kind, Brought resources kind ∧ resource.name = kind.name

theorem deliverable_iff (embed : Kind → M) (resources : List Resource) :
    Deliverable (source embed) resources ↔ Loadable resources := by
  have names (resource : Resource) : (source embed resource).map Module.name =
      (Kind.ofLocator? resource.locator).map Kind.name := by
    unfold source
    rw [Option.map_map]
    rfl
  have brought_iff (kind : Kind) : Brought resources kind ↔
      ∃ other ∈ resources, (source embed other).map Module.name = some kind.name := by
    unfold Brought
    rw [List.mem_map]
    refine exists_congr fun other => and_congr_right fun _ => ?_
    rw [names, Option.map_eq_some_iff]
    constructor
    · intro same
      exact ⟨kind, (Kind.ofLocator?_eq_some_iff _ _).mpr same, rfl⟩
    · rintro ⟨found, led, named⟩
      rw [(Kind.ofLocator?_eq_some_iff _ _).mp led, Kind.name_injective named]
  constructor
  · intro all
    have known : ∀ resource ∈ resources, ∃ kind : Kind, resource.locator = kind.locator := by
      intro resource member
      obtain ⟨m, found⟩ := Option.isSome_iff_exists.mp (all.known resource member)
      obtain ⟨kind, led, -⟩ := (source_eq_some_iff embed resource m).mp found
      exact ⟨kind, led⟩
    refine ⟨known, ?_, ?_⟩
    · refine List.Nodup.of_map (fun locator => (Kind.ofLocator? locator).map Kind.name) ?_
      rw [List.map_map]
      exact (List.map_congr_left fun resource _ => names resource) ▸ all.apart
    · intro resource member
      obtain ⟨other, there, named⟩ := all.named resource member
      obtain ⟨kind, led⟩ := known other there
      rw [names, (Kind.ofLocator?_eq_some_iff _ _).mpr led, Option.map_some] at named
      exact ⟨kind, List.mem_map.mpr ⟨other, there, led⟩, (Option.some.inj named).symm⟩
  · intro all
    refine ⟨?_, ?_, ?_⟩
    · intro resource member
      obtain ⟨kind, led⟩ := all.known resource member
      rw [(source_eq_some_iff embed resource _).mpr ⟨kind, led, rfl⟩]
      rfl
    · have same : (resources.map fun resource => (source embed resource).map Module.name) =
          (resources.map Resource.locator).map fun locator =>
            (Kind.ofLocator? locator).map Kind.name := by
        rw [List.map_map]
        exact List.map_congr_left fun resource _ => names resource
      rw [same]
      refine all.apart.map_on ?_
      intro left first right second alike
      obtain ⟨resource, member, rfl⟩ := List.mem_map.mp first
      obtain ⟨other, member', rfl⟩ := List.mem_map.mp second
      obtain ⟨kind, led⟩ := all.known resource member
      obtain ⟨kind', led'⟩ := all.known other member'
      rw [(Kind.ofLocator?_eq_some_iff _ _).mpr led, (Kind.ofLocator?_eq_some_iff _ _).mpr led',
        Option.map_some, Option.map_some] at alike
      rw [led, led', Kind.name_injective (Option.some.inj alike)]
    · intro resource member
      obtain ⟨kind, brought, named⟩ := all.named resource member
      rw [named]
      exact (brought_iff kind).mp brought

end PageSession.Builtin
