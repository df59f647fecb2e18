import PageSession.Exchange.Failure
import PageSession.Message.Frame

/-!
Frames in a stream of bytes. Each body stands behind its length, four bytes with the lowest first.
A body of more than 16 MiB is neither written nor read.

Models `write_frame` and `read_frame` with their `MAX_FRAME_LEN`.
-/
namespace PageSession.Exchange
open Message

/-- The largest body. -/
def frameLimit : Nat := 16 * 1024 * 1024

/-- The bytes of a length. -/
def lengthBytes (n : Nat) : ByteArray :=
  ⟨#[UInt8.ofNat n, UInt8.ofNat (n / 0x100), UInt8.ofNat (n / 0x10000),
    UInt8.ofNat (n / 0x1000000)]⟩

/-- The length at the front of some bytes, once all four of its bytes are there. -/
def length? (bytes : ByteArray) : Option Nat :=
  if inside : 4 ≤ bytes.size then
    some (bytes[0].toNat + 0x100 * bytes[1].toNat + 0x10000 * bytes[2].toNat +
      0x1000000 * bytes[3].toNat)
  else none

/-- A body behind its length. -/
def framed (body : ByteArray) : Except Failure ByteArray :=
  if body.size ≤ frameLimit then .ok (lengthBytes body.size ++ body)
  else .error (.framing ("frame of " ++ toString body.size ++ " bytes exceeds limit"))

/-- The bytes of a frame. -/
def frameBytes (frame : Outgoing) : Except Failure ByteArray := framed frame.encode.toUTF8

/-- What may still come from the far end of a stream. -/
inductive Supply where
  | flowing
  /-- The far end sends nothing more. -/
  | ended
  /-- The next attempt to read fails. -/
  | failing (reason : String)
  deriving DecidableEq, Repr

/-- What an attempt to read a body brings. -/
inductive Reading where
  | body (bytes rest : ByteArray)
  | finished
  | failed (failure : Failure)
  /-- More bytes are needed. -/
  | waiting

/-- Reads a body from the bytes that have arrived. An end inside a length counts as an end between
frames, an end inside a body does not. -/
def readBody (arrived : ByteArray) (supply : Supply) : Reading :=
  let starve (atEnd : Reading) : Reading :=
    match supply with
    | .flowing => .waiting
    | .ended => atEnd
    | .failing reason => .failed (.io reason)
  match length? arrived with
  | none => starve .finished
  | some n =>
    if frameLimit < n then
      .failed (.framing ("frame length " ++ toString n ++ " exceeds limit"))
    else if arrived.size < 4 + n then starve (.failed (.io "early eof"))
    else .body (arrived.extract 4 (4 + n)) (arrived.extract (4 + n) arrived.size)

/-- A body takes its length with it, so less is left. -/
theorem size_rest_lt_of_readBody {arrived body rest : ByteArray} {supply : Supply}
    (h : readBody arrived supply = .body body rest) : rest.size < arrived.size := by
  unfold readBody at h
  cases hn : length? arrived with
  | none => cases supply <;> simp [hn] at h
  | some n =>
    have inside : 4 ≤ arrived.size := by
      unfold length? at hn
      split at hn
      · assumption
      · cases hn
    simp only [hn] at h
    split at h
    · cases h
    · split at h
      · cases supply <;> simp at h
      · injection h with _ hrest
        rw [← hrest, ByteArray.size_extract]
        omega

/-- The bodies at the front of some bytes, and the bytes behind them. -/
def bodies (bytes : ByteArray) : List ByteArray × ByteArray :=
  match _h : readBody bytes .flowing with
  | .body body rest =>
    let (more, left) := bodies rest
    (body :: more, left)
  | _ => ([], bytes)
termination_by bytes.size
decreasing_by exact size_rest_lt_of_readBody _h

end PageSession.Exchange
