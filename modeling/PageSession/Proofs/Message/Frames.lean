import PageSession.Message.Frame
import PageSession.Proofs.Json.Values

/-!
Outgoing frames written and read back.
-/
namespace PageSession.Message
open Json

/-- A frame whose payload holds only exact numbers and lists its members by increasing name. -/
def Outgoing.isPlain (frame : Outgoing) : Bool := (Value.object frame.payload).isPlain

/-- A plain frame is read back from its bytes, if containers are not nested too deep in it. -/
theorem Outgoing.read_encode {frame : Outgoing} (plain : frame.isPlain = true)
    (nests : frame.toValue.nesting < 128) :
    Outgoing.read.ofBytes? frame.encode.toUTF8 = some frame := by
  obtain ⟨kind, payload⟩ := frame
  have members : Value.membersAreExact
      [("type", .text kind), ("payload", .object payload)] = true := by
    simpa [Value.membersAreExact, Value.isExact] using Value.isExact_of_isPlain _ plain
  have depth : (Value.object payload).nesting ≤ 126 := by
    simp only [toValue, Value.nesting, Value.memberNesting] at nests ⊢
    omega
  have payloadRead : Reader.members 126 (.object (Value.memberData payload)) = some payload := by
    have value := Value.value?_datum (.object payload) plain 126 depth
    rw [Value.datum] at value
    simp [Reader.members, value]
  have slots : Datum.slots? ["type", "payload"] (.object [(some "type", .text (some kind)),
        (some "payload", .object (Value.memberData payload))]) =
      some [some (.text (some kind)), some (.object (Value.memberData payload))] := rfl
  rw [encode, toValue, Reader.ofBytes?, ofGlyphs?_write_object members, Option.bind_some]
  simp [Value.memberData, Value.datum, read, Reader.record, nestingLimit, slots, Reader.required,
    Reader.text, payloadRead]

end PageSession.Message
