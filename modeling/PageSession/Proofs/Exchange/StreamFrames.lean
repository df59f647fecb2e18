import PageSession.Proofs.Exchange.Bodies
import PageSession.Proofs.Exchange.StreamRuns
import PageSession.Proofs.Message.Frames

/-!
Frames that a line over a stream of bytes writes. Over every run in which nobody hinders the writer
they are the queued frames up to the first one that is too large, and whoever reads the bytes, in
whatever chunks they come, reads these frames and then a clean end. Of the frame that is too large
no byte is written.
-/
namespace PageSession.Exchange
open Message

def fits (frame : Outgoing) : Bool := frame.encode.toUTF8.size ≤ frameLimit

def frameTrain (frames : List Outgoing) : ByteArray :=
  train (frames.map fun frame => frame.encode.toUTF8)

namespace ByteLine

/-- Nobody hinders the writer: the far end takes what is written, and while the writer is at work
nobody tells it to stop. -/
structure Unhindered (past : StreamPast) : Prop where
  drained : ∀ done ∈ past, done.2 ≠ .jam
  unstopped : ∀ done ∈ past, done.1.writing = .running → done.1.stopping = false

/-! ## The invariant -/

/-- The writer has met a frame that is too large. -/
def Refused (sent : List Outgoing) (stream : ByteLine) (gone : List Outgoing) : Prop :=
  ∃ large rest failure, sent = gone ++ large :: rest ∧ fits large = false ∧
    frameBytes large = .error failure ∧ stream.writing = .ended (some failure.message)

/-- What a line has written of the frames that were to be queued: the first of them, all within the
limit. The others are queued, or the first of them is too large. -/
structure Writes (sent : List Outgoing) (stream : ByteLine) (gone : List Outgoing) : Prop where
  written : stream.written = frameTrain gone
  fit : ∀ frame ∈ gone, fits frame = true
  drained : stream.drained = true
  going : stream.writing = .running → sent = gone ++ stream.queue
  ended : stream.writing ≠ .running →
    sent = gone ∧ stream.queueOpen = false ∨ Refused sent stream gone

/-- A line changes in nothing that the writer has to do with. -/
structure Apart (stream later : ByteLine) : Prop where
  written : later.written = stream.written
  drained : later.drained = stream.drained
  writing : later.writing = stream.writing
  queue : later.queue = stream.queue
  queueOpen : later.queueOpen = stream.queueOpen

theorem Apart.trans {first second third : ByteLine} (front : Apart first second)
    (behind : Apart second third) : Apart first third where
  written := behind.written.trans front.written
  drained := behind.drained.trans front.drained
  writing := behind.writing.trans front.writing
  queue := behind.queue.trans front.queue
  queueOpen := behind.queueOpen.trans front.queueOpen

theorem Writes.apart {sent gone : List Outgoing} {stream later : ByteLine}
    (writes : Writes sent stream gone) (apart : Apart stream later) : Writes sent later gone where
  written := apart.written.trans writes.written
  fit := writes.fit
  drained := apart.drained.trans writes.drained
  going := by
    rw [apart.writing, apart.queue]
    exact writes.going
  ended := by
    unfold Refused
    rw [apart.writing, apart.queueOpen]
    exact writes.ended

theorem apart_report (stream : ByteLine) (report : Report) :
    Apart stream (stream.report report) := by
  unfold ByteLine.report
  split <;> exact ⟨rfl, rfl, rfl, rfl, rfl⟩

theorem apart_read (stream : ByteLine) : Apart stream stream.read := by
  have taken (rest : ByteArray) : Apart stream { stream with arrived := rest } :=
    ⟨rfl, rfl, rfl, rfl, rfl⟩
  unfold read
  split
  · exact ⟨rfl, rfl, rfl, rfl, rfl⟩
  · split
    · exact ⟨rfl, rfl, rfl, rfl, rfl⟩
    · exact ⟨rfl, rfl, rfl, rfl, rfl⟩
    · exact ⟨rfl, rfl, rfl, rfl, rfl⟩
    · dsimp only
      split
      · split
        · exact (taken _).trans (apart_report _ _)
        · exact ⟨rfl, rfl, rfl, rfl, rfl⟩
      · exact (taken _).trans (apart_report _ _)

theorem apart_stopReading (stream : ByteLine) : Apart stream stream.stopReading := by
  unfold stopReading
  split <;> exact ⟨rfl, rfl, rfl, rfl, rfl⟩

theorem apart_close (stream : ByteLine) : Apart stream stream.close := by
  unfold close
  split
  · split
    · exact ⟨rfl, rfl, rfl, rfl, rfl⟩
    · obtain ⟨written, drained, writing, queue, queueOpen⟩ := apart_report stream
        (.closed _)
      exact ⟨written, drained, writing, queue, queueOpen⟩
  · exact ⟨rfl, rfl, rfl, rfl, rfl⟩

theorem apart_receive (stream : ByteLine) (bytes : ByteArray) :
    Apart stream (stream.receive bytes).2 := by
  unfold receive
  split <;> exact ⟨rfl, rfl, rfl, rfl, rfl⟩

/-! ## Turns of the writer -/

theorem frameBytes_ok {frame : Outgoing} {bytes : ByteArray}
    (framed : frameBytes frame = .ok bytes) :
    fits frame = true ∧ bytes = bundle frame.encode.toUTF8 := by
  obtain ⟨within, same⟩ := framed_eq_ok_iff.mp framed
  exact ⟨decide_eq_true within, same⟩

theorem frameBytes_error {frame : Outgoing} {failure : Failure}
    (framed : frameBytes frame = .error failure) : fits frame = false := by
  unfold frameBytes Exchange.framed at framed
  split at framed
  · cases framed
  · rename_i large
    exact decide_eq_false large

variable {sent gone : List Outgoing} {stream later : ByteLine}

theorem Writes.write (writes : Writes sent stream gone) :
    ∃ gone, Writes sent stream.write gone := by
  unfold ByteLine.write
  split
  · exact ⟨gone, writes⟩
  · rename_i running
    have split := writes.going running
    split
    · rename_i empty
      rw [empty, List.append_nil] at split
      split
      · exact ⟨gone, writes⟩
      · rename_i hungUp
        rw [Bool.not_eq_true] at hungUp
        exact ⟨gone, writes.written, writes.fit, writes.drained, nofun,
          fun _ => .inl ⟨split, hungUp⟩⟩
    · rename_i frame rest queued
      rw [queued] at split
      dsimp only
      split
      · rename_i failure refused
        exact ⟨gone, writes.written, writes.fit, writes.drained, nofun,
          fun _ => .inr ⟨frame, rest, failure, split, frameBytes_error refused, refused, rfl⟩⟩
      · rename_i bytes framed
        obtain ⟨fit, same⟩ := frameBytes_ok framed
        rw [if_pos writes.drained]
        refine ⟨gone ++ [frame], ?_, ?_, writes.drained, fun _ => ?_, fun ended => ?_⟩
        · simp [same, writes.written, frameTrain]
        · intro other inside
          rcases List.mem_append.mp inside with inside | inside
          · exact writes.fit other inside
          · exact List.mem_singleton.mp inside ▸ fit
        · simpa using split
        · exact absurd running ended

theorem Writes.send (writes : Writes sent stream gone) (queueOpen : stream.queueOpen = true)
    (frame : Outgoing) : Writes (sent ++ [frame]) (stream.send frame).2 gone := by
  unfold ByteLine.send
  split
  · rename_i running
    refine ⟨writes.written, writes.fit, writes.drained, fun _ => ?_, fun ended => ?_⟩
    · simp [writes.going running]
    · exact absurd running ended
  · rename_i ended
    refine ⟨writes.written, writes.fit, writes.drained, fun running => absurd running ended,
      fun _ => ?_⟩
    rcases writes.ended ended with ⟨-, hungUp⟩ | ⟨large, rest, failure, split, unfit, refused, same⟩
    · rw [queueOpen] at hungUp
      cases hungUp
    · exact .inr ⟨large, rest ++ [frame], failure, by simp [split], unfit, refused, same⟩

/-! ## A move, and a run -/

theorem Writes.after? {move : StreamMove} (writes : Writes sent stream gone)
    (done : stream.after? move = some later) (drained : move ≠ .jam)
    (unstopped : stream.writing = .running → stream.stopping = false) :
    ∃ gone, Writes (sent ++ move.frames) later gone := by
  have nothing : sent ++ [] = sent := List.append_nil sent
  cases move with
  | arrive bytes =>
    obtain ⟨_, same⟩ := Option.ite_none_right_eq_some.mp done
    cases same
    exact ⟨gone, nothing.symm ▸ writes.apart (apart_receive stream bytes)⟩
  | finish | breakOff =>
    obtain ⟨_, same⟩ := Option.ite_none_right_eq_some.mp done
    cases same
    exact ⟨gone, nothing.symm ▸ writes.apart ⟨rfl, rfl, rfl, rfl, rfl⟩⟩
  | send frame =>
    obtain ⟨queueOpen, same⟩ := Option.ite_none_right_eq_some.mp done
    cases same
    exact ⟨gone, writes.send queueOpen frame⟩
  | hangUp =>
    cases done
    refine ⟨gone, nothing.symm ▸ { writes with ended := fun ended => ?_ }⟩
    exact (writes.ended ended).imp_left fun ⟨all, _⟩ => ⟨all, rfl⟩
  | jam => exact absurd rfl drained
  | deafen | cancel =>
    cases done
    exact ⟨gone, nothing.symm ▸ writes.apart ⟨rfl, rfl, rfl, rfl, rfl⟩⟩
  | read =>
    cases done
    exact ⟨gone, nothing.symm ▸ writes.apart (apart_read stream)⟩
  | stopReading =>
    cases done
    exact ⟨gone, nothing.symm ▸ writes.apart (apart_stopReading stream)⟩
  | write =>
    cases done
    obtain ⟨gone, writes⟩ := writes.write
    exact ⟨gone, nothing.symm ▸ writes⟩
  | stopWriting =>
    cases done
    have unmoved : stream.stopWriting = stream := by
      unfold stopWriting
      split
      · rename_i stops
        rw [Bool.and_eq_true, decide_eq_true_eq] at stops
        simp [unstopped stops.2] at stops
      · rfl
    exact ⟨gone, nothing.symm ▸ unmoved.symm ▸ writes⟩
  | close =>
    cases done
    exact ⟨gone, nothing.symm ▸ writes.apart (apart_close stream)⟩

theorem StreamRun.writes {past : StreamPast} (run : StreamRun past stream)
    (unhindered : Unhindered past) : ∃ gone, Writes (sentIn past) stream gone := by
  induction run with
  | opening => exact ⟨[], rfl, nofun, rfl, fun _ => rfl, fun ended => absurd rfl ended⟩
  | @next past stream later move _ done ih =>
    obtain ⟨gone, writes⟩ := ih
      ⟨fun done inside => unhindered.drained done (by simp [inside]),
        fun done inside => unhindered.unstopped done (by simp [inside])⟩
    exact writes.after? done (unhindered.drained (stream, move) (by simp))
      (unhindered.unstopped (stream, move) (by simp))

/-! ## A writer that comes to rest -/

theorem queue_write {frame : Outgoing} {rest : List Outgoing}
    (running : stream.writing = .running) (queued : stream.queue = frame :: rest) :
    stream.write.queue = rest := by
  rw [ByteLine.write, running, queued]
  dsimp only
  split
  · rfl
  · split <;> rfl

/-- The writer rests, or takes a frame from the queue. -/
theorem write_rests_or_takes (stream : ByteLine) :
    stream.write.write = stream.write ∨ stream.write.queue.length < stream.queue.length := by
  cases running : stream.writing with
  | ended reason =>
    have rests : stream.write = stream := by simp [ByteLine.write, running]
    exact .inl (by rw [rests, rests])
  | running =>
    cases queued : stream.queue with
    | nil =>
      left
      by_cases queueOpen : stream.queueOpen = true
      · have rests : stream.write = stream := by simp [ByteLine.write, running, queued, queueOpen]
        rw [rests, rests]
      · have ends : stream.write = stream.endWriting "client closed" := by
          simp [ByteLine.write, running, queued, queueOpen]
        rw [ends]
        rfl
    | cons frame rest =>
      right
      rw [queue_write running queued]
      simp

/-- After a turn for every frame in the queue and one more the writer rests. -/
theorem writeAll_rests {turns : Nat} (enough : stream.queue.length < turns) :
    (stream.writeAll turns).write = stream.writeAll turns := by
  rw [writeAll_eq_iterate]
  exact iterate_rests (fun stream => stream.queue.length) write_rests_or_takes
    (Nat.one_mul turns ▸ enough)

theorem Writes.writeAll (writes : Writes sent stream gone) (turns : Nat) :
    ∃ gone, Writes sent (stream.writeAll turns) gone := by
  induction turns generalizing stream gone with
  | zero => exact ⟨gone, writes⟩
  | succ turns ih =>
    obtain ⟨gone, writes⟩ := writes.write
    exact ih writes

/-! ## All that is written -/

/-- Once the writer rests everything is written, or what is not is refused. -/
theorem Writes.all_of_rests (writes : Writes sent stream gone) (rests : stream.write = stream) :
    sent = gone ∨ Refused sent stream gone := by
  cases running : stream.writing with
  | ended reason => exact (writes.ended (by simp [running])).imp_left And.left
  | running =>
    left
    cases queued : stream.queue with
    | nil => simpa [queued] using writes.going running
    | cons frame rest =>
      have taken := queue_write running queued
      rw [rests, queued] at taken
      exact absurd taken (List.cons_ne_self frame rest)

theorem takeWhile_fits_of_refused (refused : Refused sent stream gone)
    (fit : ∀ frame ∈ gone, fits frame = true) : sent.takeWhile fits = gone := by
  obtain ⟨large, rest, _, split, unfit, _⟩ := refused
  rw [split, List.takeWhile_append_of_pos fit]
  simp [unfit]

theorem Writes.gone_early (writes : Writes sent stream gone) : gone <+: sent.takeWhile fits := by
  have front : gone <+: sent := by
    cases running : stream.writing with
    | running => exact ⟨_, (writes.going running).symm⟩
    | ended reason =>
      rcases writes.ended (by simp [running]) with ⟨same, -⟩ | ⟨large, rest, _, split, _⟩
      · exact same ▸ List.prefix_rfl
      · exact ⟨_, split.symm⟩
  obtain ⟨rest, rfl⟩ := front
  rw [List.takeWhile_append_of_pos writes.fit]
  exact List.prefix_append _ _

theorem Writes.gone_of_rests (writes : Writes sent stream gone) (rests : stream.write = stream) :
    gone = sent.takeWhile fits := by
  rcases writes.all_of_rests rests with same | refused
  · rw [same, List.takeWhile_eq_self_iff.mpr writes.fit]
  · exact (takeWhile_fits_of_refused refused writes.fit).symm

/-- What is written of plain frames is read back as these frames, in whatever chunks it comes. -/
theorem readChunks_frameTrain {frames : List Outgoing} (fit : ∀ frame ∈ frames, fits frame = true)
    (plain : ∀ frame ∈ frames, frame.isPlain = true ∧ frame.toValue.nesting < 128)
    {chunks : List ByteArray} (whole : joined chunks = frameTrain frames) :
    ∃ bodies, readChunks .empty chunks = (bodies, .finished) ∧
      bodies.map Outgoing.read.ofBytes? = frames.map some := by
  refine ⟨_, readChunks_train (fun body inside => ?_) whole, ?_⟩
  · obtain ⟨frame, member, rfl⟩ := List.mem_map.mp inside
    exact of_decide_eq_true (fit frame member)
  · rw [List.map_map]
    exact List.map_congr_left fun frame inside =>
      Outgoing.read_encode (plain frame inside).1 (plain frame inside).2

/-- Over every run in which nobody hinders the writer: of the frames that were to be queued it
writes those in front of the first one that is too large, as soon as it has had its turns, and never
anything else. Their bytes are read back as these frames with a clean end behind them, however they
are cut into chunks. A frame that is too large ends the writer. Writing and reading agree on every
length of a body. -/
theorem written_frames_are_read_back {past : StreamPast} (run : StreamRun past stream)
    (unhindered : Unhindered past)
    (plain : ∀ frame ∈ sentIn past, frame.isPlain = true ∧ frame.toValue.nesting < 128) :
    let fit := (sentIn past).takeWhile fits
    let rested := stream.writeAll (stream.queue.length + 1)
    (∃ gone, gone <+: fit ∧ stream.written = frameTrain gone) ∧
    rested.written = frameTrain fit ∧
    (∀ chunks, joined chunks = rested.written →
      ∃ bodies, readChunks .empty chunks = (bodies, .finished) ∧
        bodies.map Outgoing.read.ofBytes? = fit.map some) ∧
    (sentIn past ≠ fit → Refused (sentIn past) rested fit) ∧
    ∀ (body more : ByteArray) (supply : Supply),
      (body.size ≤ frameLimit →
        framed body = .ok (bundle body) ∧
          readBody (bundle body ++ more) supply = .body body more) ∧
      (frameLimit < body.size →
        (∃ failure, framed body = .error failure) ∧
          (body.size < UInt32.size →
            ∃ failure, readBody (bundle body ++ more) supply = .failed failure)) := by
  intro fit rested
  obtain ⟨early, writesEarly⟩ := run.writes unhindered
  obtain ⟨gone, writes⟩ := writesEarly.writeAll (stream.queue.length + 1)
  have rests : rested.write = rested := writeAll_rests (by omega)
  have all : gone = fit := writes.gone_of_rests rests
  subst all
  refine ⟨⟨early, writesEarly.gone_early, writesEarly.written⟩, writes.written, ?_, ?_, ?_⟩
  · intro chunks whole
    exact readChunks_frameTrain writes.fit
      (fun frame inside => plain frame ((List.takeWhile_sublist fits).subset inside))
      (whole.trans writes.written)
  · intro more
    exact (writes.all_of_rests rests).resolve_left more
  · exact framed_agrees

/-- A frame is queued and not written yet. -/
theorem written_frames_are_read_back_join :
    let frame : Outgoing := { kind := "join", payload := [("room", .text "alice:s1")] }
    let past : StreamPast := [({}, .send frame)]
    let stream : ByteLine := { queue := [frame] }
    let fit := (sentIn past).takeWhile fits
    let rested := stream.writeAll (stream.queue.length + 1)
    StreamRun past stream ∧ Unhindered past ∧
      ∀ chunks, joined chunks = rested.written →
        ∃ bodies, readChunks .empty chunks = (bodies, .finished) ∧
          bodies.map Outgoing.read.ofBytes? = fit.map some := by
  intro frame past stream fit rested
  have run : StreamRun past stream := StreamRun.opening.next rfl
  have unhindered : Unhindered past := ⟨by simp [past], by simp [past]⟩
  have plain : ∀ frame ∈ sentIn past, frame.isPlain = true ∧ frame.toValue.nesting < 128 := by
    intro other inside
    rw [List.mem_singleton.mp inside]
    decide
  obtain ⟨_, _, readBack, _⟩ := written_frames_are_read_back run unhindered plain
  exact ⟨run, unhindered, readBack⟩

end ByteLine
end PageSession.Exchange
