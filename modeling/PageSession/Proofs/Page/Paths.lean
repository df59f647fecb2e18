import PageSession.Page.Failure
import PageSession.Proofs.Json.Records

/-!
The grammar of paths. A text is a path exactly when no segment between its dots is empty, although
it is cut at its first dot only and what is behind that dot is looked at apart. The paths that can
be read are those with a dotless area and a key of full segments; each is read back from its own
text, as it stands and as a serialized string.
-/
namespace PageSession

namespace Json

/-- A serialized string is read as the text it was written from. -/
theorem Reader.ofString?_write_text {α : Type} (read : Reader α) (s : String) :
    read.ofString? (Value.text s).write = read nestingLimit (.text (some s)) := by
  have legible := Value.legible_tokens (.text s) rfl .nil nofun
  rw [Reader.ofString?_eq_ofBytes?, Reader.ofBytes?, ofGlyphs?_write legible]
  rfl

end Json

namespace Page

/-! ## Cutting at dots -/

theorem segments_eq_splitOn (chars : List Char) : segments chars = chars.splitOn '.' := by
  induction chars with
  | nil => rfl
  | cons c rest ih =>
    rw [segments, List.splitOn_cons_eq_if_modifyHead, ih]
    by_cases dot : c = '.'
    · rw [if_pos dot, if_pos (beq_iff_eq.mpr dot)]
    · rw [if_neg dot, if_neg fun same => dot (beq_iff_eq.mp same)]
      cases cut : rest.splitOn '.' with
      | nil => exact absurd cut (List.splitOn_ne_nil '.' rest)
      | cons first others => rfl

/-- What is before the first dot and what is behind it make up the whole. -/
theorem splitFirstDot_eq {chars front : List Char} {behind : Option (List Char)}
    (halves : splitFirstDot chars = (front, behind)) :
    chars = front ++ behind.elim [] ('.' :: ·) := by
  induction chars generalizing front with
  | nil =>
    cases halves
    rfl
  | cons c rest ih =>
    rw [splitFirstDot] at halves
    split at halves
    · rename_i dot
      cases halves
      rw [dot]
      rfl
    · cases halves
      exact congrArg (c :: ·) (ih rfl)

theorem dotless_of_splitFirstDot {chars front : List Char} {behind : Option (List Char)}
    (halves : splitFirstDot chars = (front, behind)) : '.' ∉ front := by
  induction chars generalizing front with
  | nil =>
    cases halves
    exact List.not_mem_nil
  | cons c rest ih =>
    rw [splitFirstDot] at halves
    split at halves
    · cases halves
      exact List.not_mem_nil
    · rename_i other
      cases halves
      rw [List.mem_cons, not_or]
      exact ⟨fun same => other same.symm, ih rfl⟩

/-- A dotless front is cut off whole, whether or not a dot comes behind it. -/
theorem splitFirstDot_append {front : List Char} (dotless : '.' ∉ front)
    (behind : Option (List Char)) :
    splitFirstDot (front ++ behind.elim [] ('.' :: ·)) = (front, behind) := by
  induction front with
  | nil => cases behind <;> rfl
  | cons c front ih =>
    rw [List.mem_cons, not_or] at dotless
    rw [List.cons_append, splitFirstDot, if_neg fun same => dotless.1 same.symm, ih dotless.2]

/-- The first segment is what the first cut leaves in front. -/
theorem splitOn_of_splitFirstDot {chars front : List Char} {behind : Option (List Char)}
    (halves : splitFirstDot chars = (front, behind)) :
    chars.splitOn '.' = front :: behind.elim [] (List.splitOn '.') := by
  have dotless := dotless_of_splitFirstDot halves
  rw [splitFirstDot_eq halves]
  cases behind with
  | none => exact (congrArg _ (List.append_nil front)).trans (List.splitOn_eq_singleton dotless)
  | some behind => exact List.splitOn_append_cons_self_of_not_mem dotless behind

namespace NodePath

/-! ## Which texts are paths -/

/-- A path with a dotless area and a key, if any, of full segments. -/
structure IsProper (path : NodePath) : Prop where
  named : path.area ≠ ""
  dotless : '.' ∉ path.area.toList
  full : ∀ key, path.key = some key → [] ∉ key.toList.splitOn '.'

theorem toList_text (path : NodePath) :
    path.text.toList = path.area.toList ++ (path.key.map String.toList).elim [] ('.' :: ·) := by
  unfold text
  cases path.key <;> simp

/-- A text is refused exactly for an empty segment, wherever its dots are. -/
theorem ofText?_eq_none_iff (text : String) :
    ofText? text = none ↔ [] ∈ text.toList.splitOn '.' := by
  unfold ofText?
  split
  · rename_i front halves
    rw [splitOn_of_splitFirstDot halves]
    cases front <;> simp
  · rename_i front behind halves
    rw [splitOn_of_splitFirstDot halves, segments_eq_splitOn]
    have any_isEmpty : (behind.splitOn '.').any List.isEmpty = true ↔ [] ∈ behind.splitOn '.' := by
      simp
    cases front <;> simp [any_isEmpty]

/-- The area of a path that was read is what is before the first dot, its key what is behind it. -/
theorem halves_of_ofText? {text : String} {path : NodePath} (read : ofText? text = some path) :
    splitFirstDot text.toList = (path.area.toList, path.key.map String.toList) ∧
      path.area ≠ "" ∧ ∀ key, path.key = some key → [] ∉ key.toList.splitOn '.' := by
  unfold ofText? at read
  split at read
  · rename_i front halves
    split at read
    · cases read
    · rename_i there
      cases read
      have whole : text.toList = front := (splitFirstDot_eq halves).trans (List.append_nil front)
      refine ⟨halves.trans (congrArg (·, none) whole.symm), ?_, nofun⟩
      rintro rfl
      exact there (List.isEmpty_iff.mpr whole.symm)
  · rename_i front behind halves
    split at read
    · cases read
    · rename_i there
      rw [Bool.or_eq_true, not_or, segments_eq_splitOn] at there
      cases read
      refine ⟨by simpa using halves, ?_, ?_⟩
      · intro empty
        exact there.1 (List.isEmpty_iff.mpr (String.ofList_eq_empty_iff.mp empty))
      · rintro key ⟨⟩
        rw [String.toList_ofList]
        exact fun gap => there.2 (List.any_eq_true.mpr ⟨[], gap, rfl⟩)

/-- A path that was read has the text it was read from. -/
theorem text_of_ofText? {text : String} {path : NodePath} (read : ofText? text = some path) :
    path.text = text := by
  obtain ⟨halves, -⟩ := halves_of_ofText? read
  rw [← String.toList_inj, toList_text, ← splitFirstDot_eq halves]

theorem isProper_of_ofText? {text : String} {path : NodePath} (read : ofText? text = some path) :
    path.IsProper := by
  obtain ⟨halves, named, full⟩ := halves_of_ofText? read
  exact ⟨named, dotless_of_splitFirstDot halves, full⟩

/-- A proper path is read from its text: the first dot is the one behind its area. -/
theorem ofText?_text {path : NodePath} (proper : path.IsProper) :
    ofText? path.text = some path := by
  obtain ⟨area, key⟩ := path
  have halves := splitFirstDot_append proper.dotless (key.map String.toList)
  have there : area.toList.isEmpty = false := by
    rw [List.isEmpty_eq_false_iff]
    exact fun empty => proper.named (String.toList_eq_nil_iff.mp empty)
  unfold ofText?
  rw [toList_text, halves]
  cases key with
  | none =>
    show (if area.toList.isEmpty then none else some (NodePath.mk area none)) = _
    rw [there]
    rfl
  | some key =>
    have full : (segments key.toList).any List.isEmpty = false := by
      rw [segments_eq_splitOn, List.any_eq_false]
      intro segment inside empty
      exact proper.full key rfl (List.isEmpty_iff.mp empty ▸ inside)
    show (if (area.toList.isEmpty || (segments key.toList).any List.isEmpty) = true then none
      else some (NodePath.mk (String.ofList area.toList) (some (String.ofList key.toList)))) = _
    rw [there, full, String.ofList_toList, String.ofList_toList]
    rfl

/-- The key keeps all dots but the first. -/
example : ofText? "admin.groups.members" =
    some { area := "admin", key := some "groups.members" } := by decide +kernel

theorem ofText?_eq_some_iff {text : String} {path : NodePath} :
    ofText? text = some path ↔ path.IsProper ∧ path.text = text := by
  constructor
  · exact fun read => ⟨isProper_of_ofText? read, text_of_ofText? read⟩
  · rintro ⟨proper, rfl⟩
    exact ofText?_text proper

/-- A proper path is nested exactly when its text has a dot. -/
theorem isNested_iff {path : NodePath} (proper : path.IsProper) :
    path.isNested = true ↔ '.' ∈ path.text.toList := by
  rw [toList_text, List.mem_append, or_iff_right proper.dotless]
  unfold isNested
  cases path.key <;> simp

/-- Only a serialized text is read as a path. -/
theorem read_eq_some_iff {depth : Nat} {datum : Json.Datum} {path : NodePath} :
    read depth datum = some path ↔
      ∃ text, datum = .text (some text) ∧ ofText? text = some path := by
  cases datum with
  | text s => cases s <;> simp [read]
  | _ => simp [read]

end NodePath

theorem parse_eq_ok_iff {text : String} {path : NodePath} :
    NodePath.parse text = .ok path ↔ NodePath.ofText? text = some path := by
  unfold NodePath.parse
  cases NodePath.ofText? text <;> simp

theorem parse_eq_error_iff {text : String} {failure : Failure} :
    NodePath.parse text = .error failure ↔
      NodePath.ofText? text = none ∧ failure = .invalidPath text := by
  unfold NodePath.parse
  cases NodePath.ofText? text <;> simp [eq_comm]

/-- The grammar of paths and their round trip. A text is refused, as an invalid path that carries
it, exactly when cutting it at every dot leaves an empty segment; the path of any other text is
written as that text, has a dotless area and is nested exactly if the text has a dot. The paths read
from texts are the proper ones; each is what its own text is read as, so that paths read from
whatever texts are told apart by how they are written. As a serialized string a path is read back
the same way, any string is read as the path it parses to, which is serialized as that string
again, and no document is read as an improper path. -/
theorem paths_are_read_back :
    (∀ text : String,
      ([] ∈ text.toList.splitOn '.' → NodePath.parse text = .error (.invalidPath text)) ∧
      ([] ∉ text.toList.splitOn '.' →
        ∃ path, NodePath.parse text = .ok path ∧ path.text = text ∧ '.' ∉ path.area.toList ∧
          (path.isNested = true ↔ '.' ∈ text.toList))) ∧
    (∀ path : NodePath, path.IsProper → NodePath.parse path.text = .ok path) ∧
    (∀ text path, NodePath.parse text = .ok path → path.IsProper) ∧
    (∀ first second path other, NodePath.parse first = .ok path →
      NodePath.parse second = .ok other → path.text = other.text → path = other) ∧
    (∀ path : NodePath, path.IsProper →
      NodePath.read.ofString? path.toValue.write = some path) ∧
    (∀ text path, NodePath.read.ofString? (Json.Value.text text).write = some path ↔
      NodePath.parse text = .ok path) ∧
    (∀ text path, NodePath.read.ofString? (Json.Value.text text).write = some path →
      path.toValue.write = (Json.Value.text text).write) ∧
    ∀ document path, NodePath.read.ofString? document = some path → path.IsProper := by
  have serialized (text : String) :
      NodePath.read.ofString? (Json.Value.text text).write = NodePath.ofText? text :=
    Json.Reader.ofString?_write_text NodePath.read text
  refine ⟨fun text => ⟨?refused, ?accepted⟩, ?parsed, ?proper, ?apart, ?restored, ?strings,
    ?rewritten, ?documents⟩
  case refused =>
    intro gap
    exact parse_eq_error_iff.mpr ⟨(NodePath.ofText?_eq_none_iff text).mpr gap, rfl⟩
  case accepted =>
    intro full
    obtain ⟨path, read⟩ := Option.ne_none_iff_exists'.mp
      fun none => full ((NodePath.ofText?_eq_none_iff text).mp none)
    obtain ⟨proper, written⟩ := NodePath.ofText?_eq_some_iff.mp read
    exact ⟨path, parse_eq_ok_iff.mpr read, written, proper.dotless,
      written ▸ NodePath.isNested_iff proper⟩
  case parsed =>
    intro path proper
    exact parse_eq_ok_iff.mpr (NodePath.ofText?_text proper)
  case proper =>
    intro text path parsed
    exact NodePath.isProper_of_ofText? (parse_eq_ok_iff.mp parsed)
  case apart =>
    intro first second path other parsed parsed' same
    have read := NodePath.ofText?_text (NodePath.isProper_of_ofText? (parse_eq_ok_iff.mp parsed))
    have read' := NodePath.ofText?_text (NodePath.isProper_of_ofText? (parse_eq_ok_iff.mp parsed'))
    rw [same, read'] at read
    exact (Option.some.inj read).symm
  case restored =>
    intro path proper
    exact (serialized path.text).trans (NodePath.ofText?_text proper)
  case strings =>
    intro text path
    rw [serialized, parse_eq_ok_iff]
  case rewritten =>
    intro text path read
    rw [serialized] at read
    rw [NodePath.toValue, NodePath.text_of_ofText? read]
  case documents =>
    intro document path read
    obtain ⟨datum, -, found⟩ := Option.bind_eq_some_iff.mp read
    obtain ⟨text, -, parsed⟩ := NodePath.read_eq_some_iff.mp found
    exact NodePath.isProper_of_ofText? parsed

end Page
end PageSession
