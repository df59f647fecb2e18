import PageSession.Proofs.Exchange.StreamReports

/-!
Ends of a stream. What a reader ends with once nothing more comes lies in the bytes behind the last
whole body. A length whose body is missing is an error; fewer than the four bytes of a length are
none, whether there are any or not. It makes no difference in which chunks the bytes came, and when
the reader took its turns.
-/
namespace PageSession.Exchange
open Message

/-! ## What is read at the end -/

theorem length?_eq_none_iff {bytes : ByteArray} : length? bytes = none ↔ bytes.size < 4 := by
  unfold length?
  split
  · rename_i inside
    simp [inside]
  · rename_i short
    simpa using short

/-- The end comes as a clean one wherever no length can be read. -/
theorem readBody_ended_eq_finished_iff {bytes : ByteArray} :
    readBody bytes .ended = .finished ↔ bytes.size < 4 := by
  rw [← length?_eq_none_iff]
  unfold readBody
  cases length? bytes with
  | none => simp
  | some n =>
    dsimp only
    split
    · simp
    · split <;> simp

/-- The end comes as an error where a length has been read but no body that belongs to it. -/
theorem readBody_ended_eq_failed_iff {bytes : ByteArray} {failure : Failure} :
    readBody bytes .ended = .failed failure ↔ ∃ n, length? bytes = some n ∧
      (frameLimit < n ∧ failure = .framing ("frame length " ++ toString n ++ " exceeds limit") ∨
        n ≤ frameLimit ∧ bytes.size < 4 + n ∧ failure = .io "early eof") := by
  unfold readBody
  cases length? bytes with
  | none => simp
  | some n =>
    dsimp only
    split
    · rename_i large
      simp [large, Nat.not_le.mpr large, eq_comm]
    · rename_i within
      split
      · rename_i short
        simp [within, Nat.not_lt.mp within, short, eq_comm]
      · rename_i whole
        simp [within, whole]

/-- At the end of the bytes nobody waits for more. -/
theorem readBody_ended_ne_waiting (bytes : ByteArray) : readBody bytes .ended ≠ .waiting := by
  unfold readBody
  dsimp only
  repeat' split
  all_goals simp

def Reading.reason? : Reading → Option String
  | .finished => some "peer closed connection"
  | .failed failure => some failure.message
  | .body .. | .waiting => none

theorem isStuck_of_reason {bytes : ByteArray} {supply : Supply} {reason : String}
    (ends : (readBody bytes supply).reason? = some reason) : IsStuck bytes := by
  rw [isStuck_iff supply]
  intro body rest read
  rw [read] at ends
  cases ends

/-- Where no body stands whole at the front of the last bytes, there is a reason to end. -/
theorem reason_of_isStuck {bytes : ByteArray} (stuck : IsStuck bytes) :
    ∃ reason, (readBody bytes .ended).reason? = some reason := by
  cases read : readBody bytes .ended with
  | body body rest => exact absurd read ((isStuck_iff .ended).mp stuck body rest)
  | finished => exact ⟨_, rfl⟩
  | failed failure => exact ⟨_, rfl⟩
  | waiting => exact absurd read (readBody_ended_ne_waiting bytes)

/-- A reason to end that is met while bytes may still come stays, whatever comes. -/
theorem reason_append {bytes more : ByteArray} {supply later : Supply} {reason : String}
    (ends : (readBody bytes supply).reason? = some reason)
    (onward : supply = .flowing ∨ more = .empty ∧ later = supply) :
    (readBody (bytes ++ more) later).reason? = some reason := by
  rcases onward with rfl | ⟨rfl, rfl⟩
  · cases read : readBody bytes .flowing with
    | failed failure =>
      rw [readBody_append_of_failed read]
      rwa [read] at ends
    | finished =>
      unfold readBody at read
      dsimp only at read
      repeat' split at read
      all_goals cases read
    | body | waiting =>
      rw [read] at ends
      cases ends
  · rwa [ByteArray.append_empty]

/-- More bytes behind the last whole body stay there as long as they complete no further one. -/
theorem bodies_append_of_isStuck {came bytes : ByteArray}
    (stuck : IsStuck ((bodies came).2 ++ bytes)) :
    (bodies (came ++ bytes)).2 = (bodies came).2 ++ bytes := by
  have cut := isCut_bodies came
  have longer : IsCut (came ++ bytes) (bodies came).1 ((bodies came).2 ++ bytes) := by
    refine ⟨?_, cut.within, stuck⟩
    rw [← ByteArray.append_assoc, ← cut.sum]
  rw [longer.bodies_eq]

namespace ByteLine

/-! ## The reason of the reader -/

/-- A reader that has ended was given a reason, and it is the one that lies in the bytes behind the
last whole body, then and however many come behind them. -/
def EndsRightly (came : ByteArray) (stream : ByteLine) : Prop :=
  stream.reading ≠ .running → ∃ reason, stream.reading = .ended (some reason) ∧
    ∀ more supply, stream.supply = .flowing ∨ more = .empty ∧ supply = stream.supply →
      (readBody ((bodies came).2 ++ more) supply).reason? = some reason

section
variable {came lost : ByteArray} {stream later : ByteLine} {taken seen : List ByteArray}
  {last : List Report}

theorem read_of_reason {reason : String} (running : stream.reading = .running)
    (ends : (readBody stream.arrived stream.supply).reason? = some reason) :
    stream.read = stream.endReading reason := by
  unfold read
  rw [running]
  cases found : readBody stream.arrived stream.supply with
  | body | waiting =>
    rw [found] at ends
    cases ends
  | finished =>
    rw [found] at ends
    cases ends
    rfl
  | failed failure =>
    rw [found] at ends
    cases ends
    rfl

/-- A reader whose reports are taken goes on as long as it has no reason to end. -/
theorem reading_read (running : stream.reading = .running) (heard : stream.heard = true)
    (onward : (readBody stream.arrived stream.supply).reason? = none) :
    stream.read.reading = .running := by
  rcases read_cases stream with ⟨-, idle⟩ | ⟨reason, -, ends | ⟨failure, ends⟩, -⟩ |
    ⟨body, rest, -, -, ⟨-, turn⟩ | ⟨deaf, -⟩⟩
  · rw [idle, running]
  · rw [ends] at onward
    cases onward
  · rw [ends] at onward
    cases onward
  · rw [turn]
    exact running
  · rw [heard] at deaf
    cases deaf

theorem supply_read (stream : ByteLine) : stream.read.supply = stream.supply := by
  rcases read_cases stream with ⟨-, idle⟩ | ⟨reason, -, -, turn⟩ |
    ⟨body, rest, -, -, ⟨-, turn⟩ | ⟨-, turn | turn⟩⟩
  · rw [idle]
  all_goals exact (congrArg ByteLine.supply turn).trans rfl

theorem supply_readAll (stream : ByteLine) (turns : Nat) :
    (stream.readAll turns).supply = stream.supply := by
  induction turns generalizing stream with
  | zero => rfl
  | succ turns ih => exact (ih stream.read).trans (supply_read stream)

theorem EndsRightly.congr (ends : EndsRightly came stream)
    (reading : later.reading = stream.reading)
    (supply : later.supply = stream.supply ∨ stream.supply = .flowing) :
    EndsRightly came later := by
  intro ended
  obtain ⟨reason, given, lies⟩ := ends (reading ▸ ended)
  refine ⟨reason, reading.trans given, fun more other onward => lies more other ?_⟩
  rcases supply with same | flowing
  · exact same ▸ onward
  · exact .inl flowing

/-- A turn in which the reader ends finds its reason in what has arrived. -/
theorem EndsRightly.read (tells : Tells came stream taken seen lost last)
    (spared : Spared stream lost) (ends : EndsRightly came stream) :
    EndsRightly came stream.read := by
  cases running : stream.reading with
  | ended reason =>
    have idle : stream.read = stream := by
      unfold ByteLine.read
      rw [running]
    rwa [idle]
  | running =>
    cases meets : (readBody stream.arrived stream.supply).reason? with
    | none => exact fun ended => absurd (reading_read running spared.heard meets) ended
    | some reason =>
      have cut : IsCut came taken stream.arrived := by
        refine ⟨?_, tells.within, isStuck_of_reason meets⟩
        rw [tells.sum, tells.kept running, ByteArray.append_empty]
      rw [read_of_reason running meets]
      refine fun _ => ⟨reason, rfl, fun more supply onward => ?_⟩
      rw [cut.bodies_eq]
      exact reason_append meets onward

/-- What arrives behind the end of the reader changes nothing about its reason. -/
theorem EndsRightly.receive (ends : EndsRightly came stream) (flowing : stream.supply = .flowing)
    (bytes : ByteArray) : EndsRightly (came ++ bytes) (stream.receive bytes).2 := by
  unfold ByteLine.receive
  split
  · rename_i running
    exact fun ended => absurd running ended
  · intro ended
    obtain ⟨reason, given, lies⟩ := ends ended
    have stuck := isStuck_of_reason (lies bytes .flowing (.inl flowing))
    refine ⟨reason, given, fun more supply _ => ?_⟩
    rw [bodies_append_of_isStuck stuck, ByteArray.append_assoc]
    exact lies (bytes ++ more) supply (.inl flowing)

theorem EndsRightly.after? {move : StreamMove} (tells : Tells came stream taken seen lost last)
    (spared : Spared stream lost) (ends : EndsRightly came stream)
    (done : stream.after? move = some later) : EndsRightly (came ++ move.bytes) later := by
  have nothing : came ++ ByteArray.empty = came := ByteArray.append_empty
  cases move with
  | arrive bytes =>
    obtain ⟨flowing, same⟩ := Option.ite_none_right_eq_some.mp done
    cases same
    exact ends.receive flowing bytes
  | finish | breakOff =>
    obtain ⟨flowing, same⟩ := Option.ite_none_right_eq_some.mp done
    cases same
    exact nothing.symm ▸ ends.congr rfl (.inr flowing)
  | send frame =>
    obtain ⟨-, same⟩ := Option.ite_none_right_eq_some.mp done
    cases same
    refine nothing.symm ▸ ends.congr (aside_send stream frame).reading (.inl ?_)
    unfold send
    split <;> rfl
  | hangUp | jam | deafen | cancel =>
    cases done
    exact nothing.symm ▸ ends.congr rfl (.inl rfl)
  | read =>
    cases done
    exact nothing.symm ▸ ends.read tells spared
  | stopReading =>
    cases done
    refine nothing.symm ▸ ?_
    unfold ByteLine.stopReading
    split
    · rename_i stops
      rw [Bool.and_eq_true, decide_eq_true_eq] at stops
      exact absurd (spared.going stops.2) (by simp [stops.1])
    · exact ends
  | write =>
    cases done
    refine nothing.symm ▸ ends.congr (aside_write stream).reading (.inl ?_)
    unfold write endWriting
    dsimp only
    repeat' split
    all_goals rfl
  | stopWriting =>
    cases done
    refine nothing.symm ▸ ends.congr (aside_stopWriting stream).reading (.inl ?_)
    unfold stopWriting
    split <;> rfl
  | close =>
    cases done
    refine nothing.symm ▸ ends.congr ?_ (.inl ?_)
    all_goals
      unfold ByteLine.close report
      repeat' split
      all_goals rfl

/-- The reader of an undisturbed run has ended for the reason that lies in the bytes. -/
theorem StreamRun.endsRightly {past : StreamPast} (run : StreamRun past stream)
    (undisturbed : Undisturbed past stream) : EndsRightly (cameIn past) stream := by
  induction run with
  | opening => exact fun ended => absurd rfl ended
  | @next past stream later move run done ih =>
    obtain ⟨taken, seen, lost, last, tells, spared⟩ := run.tells
    exact (ih undisturbed.earlier).after? tells (spared undisturbed.earlier) done

/-- Once nothing more comes, a reader that rests has ended. -/
theorem ended_of_rests (rests : stream.read = stream)
    (tells : Tells came stream taken seen lost last) (spared : Spared stream lost)
    (ended : stream.supply = .ended) : stream.reading ≠ .running := by
  intro running
  have stuck := tells.isStuck_of_rests spared rests
  rw [tells.kept running, ByteArray.append_empty] at stuck
  obtain ⟨reason, meets⟩ := reason_of_isStuck stuck
  rw [← ended] at meets
  have turn := read_of_reason running meets
  rw [rests] at turn
  rw [turn] at running
  cases running

/-- At the end of every stream of bytes, in whatever chunks they came and whenever the reader took
its turns, what it ends with lies in the rest behind the last whole body. Of the rest, a body is
missing exactly where a length can be read: then the end is an error. Where fewer than four bytes
are left, be it none or a part of a length, the end is a clean one. The reader comes to its end
within its turns, and says so. -/
theorem clean_end_iff {past : StreamPast} (run : StreamRun past stream)
    (undisturbed : Undisturbed past stream) (ended : stream.supply = .ended) :
    ∃ cut rest, IsCut (cameIn past) cut rest ∧
      (∀ chunks, joined chunks = cameIn past →
        readChunks .empty chunks = (cut, readBody rest .ended)) ∧
      (readBody rest .ended = .finished ↔ rest.size < 4) ∧
      (4 ≤ rest.size → ∃ n failure, length? rest = some n ∧
        readBody rest .ended = .failed failure ∧
        (frameLimit < n ∧ failure = .framing ("frame length " ++ toString n ++ " exceeds limit") ∨
          n ≤ frameLimit ∧ rest.size < 4 + n ∧ failure = .io "early eof")) ∧
      ∃ reason, (readBody rest .ended).reason? = some reason ∧
        (stream.readAll (stream.arrived.size / 4 + 1)).reading = .ended (some reason) := by
  have cut := isCut_bodies (cameIn past)
  refine ⟨_, _, cut, fun chunks whole => ?chunks, readBody_ended_eq_finished_iff,
    fun long => ?failure, ?reader⟩
  case chunks => rw [readChunks_eq, ByteArray.empty_append, whole]
  case failure =>
    cases read : readBody (bodies (cameIn past)).2 .ended with
    | body body rest => exact absurd read ((isStuck_iff .ended).mp cut.stuck body rest)
    | waiting => exact absurd read (readBody_ended_ne_waiting _)
    | finished =>
      have short := readBody_ended_eq_finished_iff.mp read
      omega
    | failed failure =>
      obtain ⟨n, found, why⟩ := readBody_ended_eq_failed_iff.mp read
      exact ⟨n, failure, found, rfl, why⟩
  case reader =>
    obtain ⟨past', run', came, kept⟩ := run.readAll (stream.arrived.size / 4 + 1)
    obtain ⟨taken, seen, lost, last, tells, spared⟩ := run'.tells
    have closed : (stream.readAll (stream.arrived.size / 4 + 1)).supply = .ended :=
      (supply_readAll stream _).trans ended
    have calm := kept undisturbed
    have rested := ended_of_rests (readAll_rests (by omega)) tells (spared calm) closed
    obtain ⟨reason, given, lies⟩ := run'.endsRightly calm rested
    refine ⟨reason, ?_, given⟩
    have here := lies .empty .ended (.inr ⟨rfl, closed.symm⟩)
    rwa [ByteArray.append_empty, came] at here

end

/-- A body of five bytes is announced, one byte of it comes, and then nothing more. -/
theorem clean_end_iff_truncated_body :
    let opened : ByteLine := {}
    let begun : ByteLine := { arrived := ⟨#[5, 0, 0, 0, 0x78]⟩ }
    let closed : ByteLine := { begun with supply := .ended }
    let past : StreamPast := [(begun, .finish), (opened, .arrive ⟨#[5, 0, 0, 0, 0x78]⟩)]
    StreamRun past closed ∧ Undisturbed past closed ∧ closed.supply = .ended ∧
      (closed.readAll (closed.arrived.size / 4 + 1)).reading = .ended (some "early eof") := by
  intro opened begun closed past
  have run : StreamRun past closed := (StreamRun.opening.next rfl).next rfl
  have undisturbed : Undisturbed past closed :=
    ⟨by simp [past], by simp [past], by simp [past, opened, begun], fun _ => rfl⟩
  obtain ⟨cut, rest, isCut, -, -, -, reason, lies, given⟩ := clean_end_iff run undisturbed rfl
  have meets : (readBody ⟨#[5, 0, 0, 0, 0x78]⟩ .ended).reason? = some "early eof" := rfl
  have whole : IsCut (cameIn past) [] ⟨#[5, 0, 0, 0, 0x78]⟩ :=
    ⟨rfl, by simp, isStuck_of_reason meets⟩
  cases isCut.bodies_eq.symm.trans whole.bodies_eq
  cases meets.symm.trans lies
  exact ⟨run, undisturbed, rfl, given⟩

/-- Two of the four bytes of a length come, and then nothing more: the stream does not end between
two frames, but its end is a clean one. -/
theorem clean_end_inside_length :
    let opened : ByteLine := {}
    let begun : ByteLine := { arrived := ⟨#[5, 0]⟩ }
    let closed : ByteLine := { begun with supply := .ended }
    let past : StreamPast := [(begun, .finish), (opened, .arrive ⟨#[5, 0]⟩)]
    StreamRun past closed ∧ Undisturbed past closed ∧ closed.supply = .ended ∧
      IsCut (cameIn past) [] ⟨#[5, 0]⟩ ∧
      readBody ⟨#[5, 0]⟩ .ended = .finished ∧
      readChunks .empty [⟨#[5, 0]⟩] = ([], .finished) ∧
      closed.read.reading = .ended (some "peer closed connection") := by
  intro opened begun closed past
  have clean : readBody ⟨#[5, 0]⟩ .ended = .finished := rfl
  have meets : (readBody ⟨#[5, 0]⟩ .ended).reason? = some "peer closed connection" := rfl
  have whole : IsCut (cameIn past) [] ⟨#[5, 0]⟩ := ⟨rfl, by simp, isStuck_of_reason meets⟩
  have chunked : bodies (.empty ++ joined [⟨#[5, 0]⟩]) = ([], ⟨#[5, 0]⟩) := whole.bodies_eq
  refine ⟨(StreamRun.opening.next rfl).next rfl, ?_, rfl, whole, clean, ?_, rfl⟩
  · exact ⟨by simp [past], by simp [past], by simp [past, opened, begun], fun _ => rfl⟩
  · rw [readChunks_eq, chunked, clean]

end ByteLine
end PageSession.Exchange
