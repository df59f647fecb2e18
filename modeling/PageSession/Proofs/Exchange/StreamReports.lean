import PageSession.Proofs.Exchange.Bodies
import PageSession.Proofs.Exchange.StreamRuns

/-!
Reports of a line over a stream of bytes. Over every run they are the beginning, one report for each
of the bodies that the bytes fall into, in their order, and at most one end behind them. A reader
that nobody disturbs leaves none of the bodies out.

Both results rest on one invariant (`Tells`): the bytes that came in are the bodies taken so far,
then those that wait, then those that came too late.
-/
namespace PageSession.Exchange
open Message

def StreamMove.isAside : StreamMove → Bool
  | .finish | .breakOff _ | .send _ | .hangUp | .jam | .write | .stopWriting => true
  | _ => false

namespace ByteLine

/-- Nobody disturbs the reader: nobody tells it to stop, its reports are taken, and the writer does
not end before it. -/
structure Undisturbed (past : StreamPast) (stream : ByteLine) : Prop where
  uncancelled : ∀ done ∈ past, done.2 ≠ .cancel
  heard : ∀ done ∈ past, done.2 ≠ .deafen
  written : ∀ done ∈ past, done.1.reading = .running → done.1.writing = .running
  writing : stream.reading = .running → stream.writing = .running

theorem Undisturbed.earlier {past : StreamPast} {stream later : ByteLine} {move : StreamMove}
    (undisturbed : Undisturbed ((stream, move) :: past) later) : Undisturbed past stream where
  uncancelled done inside := undisturbed.uncancelled done (by simp [inside])
  heard done inside := undisturbed.heard done (by simp [inside])
  written done inside := undisturbed.written done (by simp [inside])
  writing := undisturbed.written (stream, move) (by simp)

/-! ## The invariant -/

/-- What a line has reported of the bytes that came in. The reader took some bodies from them and
reported a first part of these; the rest has arrived, or was lost behind the end of the reader. -/
structure Tells (came : ByteArray) (stream : ByteLine) (taken seen : List ByteArray)
    (lost : ByteArray) (last : List Report) : Prop where
  sum : came = train taken ++ (stream.arrived ++ lost)
  within : ∀ body ∈ taken, body.size ≤ frameLimit
  kept : stream.reading = .running → lost = .empty
  reports : stream.reports = .connected :: seen.map reportOf ++ last
  early : seen <+: taken
  whole : stream.heard = true → seen = taken
  unclosed : stream.closed = false → last = []
  closed : stream.closed = true → stream.reading ≠ .running ∧ stream.writing ≠ .running
  last : last = [] ∨ ∃ reason, last = [.closed reason]

/-- What holds besides while nobody disturbs the reader: it ends only where no body stands whole at
the front of the bytes, nor ever will. -/
structure Spared (stream : ByteLine) (lost : ByteArray) : Prop where
  heard : stream.heard = true
  going : stream.reading = .running → stream.stopping = false
  spent : stream.reading ≠ .running →
    ∀ more, stream.supply = .flowing ∨ more = .empty → IsStuck (stream.arrived ++ lost ++ more)

/-- A line changes aside from the reader: what the reader has to do with stays as it is, no new
bytes come to be expected, and only a writer that ends tells the reader to stop. -/
structure Aside (stream later : ByteLine) : Prop where
  arrived : later.arrived = stream.arrived
  reading : later.reading = stream.reading
  heard : later.heard = stream.heard
  reports : later.reports = stream.reports
  closed : later.closed = stream.closed
  writing : stream.writing ≠ .running → later.writing ≠ .running
  supply : later.supply = .flowing → stream.supply = .flowing
  stopping : stream.stopping = false → later.writing = .running → later.stopping = false

theorem Tells.aside {came lost : ByteArray} {stream later : ByteLine}
    {taken seen : List ByteArray} {last : List Report}
    (tells : Tells came stream taken seen lost last) (aside : Aside stream later) :
    Tells came later taken seen lost last where
  sum := aside.arrived ▸ tells.sum
  within := tells.within
  kept := aside.reading ▸ tells.kept
  reports := aside.reports ▸ tells.reports
  early := tells.early
  whole := aside.heard ▸ tells.whole
  unclosed := aside.closed ▸ tells.unclosed
  closed closed := by
    obtain ⟨reading, writing⟩ := tells.closed (aside.closed ▸ closed)
    exact ⟨aside.reading ▸ reading, aside.writing writing⟩
  last := tells.last

theorem Spared.aside {lost : ByteArray} {stream later : ByteLine} (spared : Spared stream lost)
    (aside : Aside stream later) (writing : later.reading = .running → later.writing = .running) :
    Spared later lost where
  heard := aside.heard.trans spared.heard
  going running :=
    aside.stopping (spared.going (aside.reading ▸ running)) (writing running)
  spent ended more quiet := by
    rw [aside.arrived]
    exact spared.spent (aside.reading ▸ ended) more (quiet.imp_left aside.supply)

/-! ## Turns of the writer, and what others do -/

theorem aside_write (stream : ByteLine) : Aside stream stream.write := by
  unfold write
  split
  · exact ⟨rfl, rfl, rfl, rfl, rfl, id, id, fun still _ => still⟩
  · rename_i running
    have impossible {P : Prop} (ended : stream.writing ≠ .running) : P := absurd running ended
    split
    · split
      · exact ⟨rfl, rfl, rfl, rfl, rfl, id, id, fun still _ => still⟩
      · exact ⟨rfl, rfl, rfl, rfl, rfl, impossible, id, fun _ running => by cases running⟩
    · dsimp only
      split
      · exact ⟨rfl, rfl, rfl, rfl, rfl, impossible, id, fun _ running => by cases running⟩
      · split
        · exact ⟨rfl, rfl, rfl, rfl, rfl, impossible, id, fun still _ => still⟩
        · exact ⟨rfl, rfl, rfl, rfl, rfl, impossible, id, fun _ running => by cases running⟩

theorem aside_stopWriting (stream : ByteLine) : Aside stream stream.stopWriting := by
  unfold stopWriting
  split
  · exact ⟨rfl, rfl, rfl, rfl, rfl, fun _ => by simp, id, fun still _ => still⟩
  · exact ⟨rfl, rfl, rfl, rfl, rfl, id, id, fun still _ => still⟩

theorem aside_send (stream : ByteLine) (frame : Outgoing) :
    Aside stream (stream.send frame).2 := by
  unfold send
  split <;> exact ⟨rfl, rfl, rfl, rfl, rfl, id, id, fun still _ => still⟩

theorem aside_of_isAside {stream later : ByteLine} {move : StreamMove}
    (isAside : move.isAside = true) (done : stream.after? move = some later) : Aside stream later ∧ move.bytes = .empty := by
  refine ⟨?_, by cases move <;> first | rfl | cases isAside⟩
  cases move with
  | finish | breakOff =>
    obtain ⟨flowing, same⟩ := Option.ite_none_right_eq_some.mp done
    cases same
    exact ⟨rfl, rfl, rfl, rfl, rfl, id, fun _ => flowing, fun still _ => still⟩
  | send frame =>
    obtain ⟨_, same⟩ := Option.ite_none_right_eq_some.mp done
    cases same
    exact aside_send stream frame
  | hangUp | jam =>
    cases done
    exact ⟨rfl, rfl, rfl, rfl, rfl, id, id, fun still _ => still⟩
  | write =>
    cases done
    exact aside_write stream
  | stopWriting =>
    cases done
    exact aside_stopWriting stream
  | arrive | deafen | cancel | read | stopReading | close => cases isAside

/-! ## Turns of the reader -/

/-- A turn of the reader: nothing, the end, or a body that is reported if anybody listens. A body
that nobody takes may end the reader as well. -/
theorem read_cases (stream : ByteLine) :
    ((stream.reading = .running → readBody stream.arrived stream.supply = .waiting) ∧
      stream.read = stream) ∨
    (∃ reason, stream.reading = .running ∧
      (readBody stream.arrived stream.supply = .finished ∨
        ∃ failure, readBody stream.arrived stream.supply = .failed failure) ∧
      stream.read = stream.endReading reason) ∨
    ∃ body rest, stream.reading = .running ∧
      readBody stream.arrived stream.supply = .body body rest ∧
      (stream.heard = true ∧ stream.read =
          { stream with arrived := rest, reports := stream.reports ++ [reportOf body] } ∨
        stream.heard = false ∧ (stream.read = { stream with arrived := rest } ∨
          stream.read = { stream with arrived := rest }.endReading "client closed")) := by
  unfold read
  cases running : stream.reading with
  | ended reason => exact .inl ⟨nofun, rfl⟩
  | running =>
    cases found : readBody stream.arrived stream.supply with
    | waiting => exact .inl ⟨fun _ => rfl, rfl⟩
    | finished => exact .inr (.inl ⟨_, rfl, .inl rfl, rfl⟩)
    | failed failure => exact .inr (.inl ⟨_, rfl, .inr ⟨failure, rfl⟩, rfl⟩)
    | body bytes rest =>
      refine .inr (.inr ⟨bytes, rest, rfl, rfl, ?_⟩)
      cases heard : stream.heard with
      | true =>
        refine .inl ⟨rfl, ?_⟩
        dsimp only
        split
        · rename_i frame readable
          simp [report, readable]
        · simp [report]
      | false =>
        refine .inr ⟨rfl, ?_⟩
        dsimp only
        split
        · right
          simp
        · left
          simp [report]

variable {came lost : ByteArray} {stream later : ByteLine} {taken seen : List ByteArray}
  {last : List Report}

/-- While the reader is at work the end has not been reported. -/
theorem Tells.last_of_running (tells : Tells came stream taken seen lost last)
    (running : stream.reading = .running) : last = [] := by
  cases closed : stream.closed with
  | true => exact absurd running (tells.closed closed).1
  | false => exact tells.unclosed closed

/-- The reader ends, and what has arrived stays as it is. -/
theorem Tells.end_reading (tells : Tells came stream taken seen lost last)
    (running : stream.reading = .running) (reason : Option String) (stopping : Bool) :
    Tells came { stream with reading := .ended reason, stopping } taken seen lost last where
  sum := tells.sum
  within := tells.within
  kept ended := by cases ended
  reports := tells.reports
  early := tells.early
  whole := tells.whole
  unclosed := tells.unclosed
  closed closed := absurd running (tells.closed closed).1
  last := tells.last

/-- A body is taken from what has arrived. -/
theorem Tells.take {body rest : ByteArray} (tells : Tells came stream taken seen lost last)
    (read : readBody stream.arrived stream.supply = .body body rest) :
    came = train (taken ++ [body]) ++ (rest ++ lost) ∧
      ∀ other ∈ taken ++ [body], other.size ≤ frameLimit := by
  obtain ⟨within, sum⟩ := readBody_eq_body_iff.mp read
  refine ⟨?_, fun other inside => ?_⟩
  · rw [tells.sum, sum, train_append, train_singleton, ByteArray.append_assoc,
      ByteArray.append_assoc]
  · rcases List.mem_append.mp inside with inside | inside
    · exact tells.within other inside
    · exact List.mem_singleton.mp inside ▸ within

theorem Tells.take_unheard {body rest : ByteArray} (tells : Tells came stream taken seen lost last)
    (heard : stream.heard = false)
    (read : readBody stream.arrived stream.supply = .body body rest) :
    Tells came { stream with arrived := rest } (taken ++ [body]) seen lost last :=
  { tells with
    sum := (tells.take read).1
    within := (tells.take read).2
    early := tells.early.trans (List.prefix_append _ _)
    whole := fun hears => by simp [heard] at hears }

theorem Tells.take_heard {body rest : ByteArray} (tells : Tells came stream taken seen lost last)
    (running : stream.reading = .running) (heard : stream.heard = true)
    (read : readBody stream.arrived stream.supply = .body body rest) :
    Tells came { stream with arrived := rest, reports := stream.reports ++ [reportOf body] }
      (taken ++ [body]) (seen ++ [body]) lost last :=
  { tells with
    sum := (tells.take read).1
    within := (tells.take read).2
    reports := by
      rw [tells.reports, tells.last_of_running running]
      simp
    early := tells.whole heard ▸ List.prefix_rfl
    whole := fun _ => tells.whole heard ▸ rfl }

theorem Tells.read (tells : Tells came stream taken seen lost last) :
    ∃ taken seen, Tells came stream.read taken seen lost last ∧
      (Spared stream lost → Spared stream.read lost) := by
  rcases read_cases stream with ⟨-, idle⟩ | ⟨reason, running, ends, turn⟩ |
    ⟨body, rest, running, read, ⟨heard, turn⟩ | ⟨heard, turn | turn⟩⟩
  · exact ⟨taken, seen, idle.symm ▸ tells, fun spared => idle.symm ▸ spared⟩
  · rw [turn]
    refine ⟨taken, seen, tells.end_reading running _ _, fun spared => ⟨spared.heard, ?_, ?_⟩⟩
    · intro running
      cases running
    · intro _ more quiet
      rw [tells.kept running, ByteArray.append_empty]
      exact isStuck_append_of_end ends quiet
  · rw [turn]
    refine ⟨_, _, tells.take_heard running heard read, fun spared => ⟨heard, spared.going, ?_⟩⟩
    exact fun ended => absurd running ended
  · rw [turn]
    refine ⟨_, _, tells.take_unheard heard read, fun spared => ?_⟩
    exact absurd spared.heard (by simp [heard])
  · rw [turn]
    refine ⟨_, _, (tells.take_unheard heard read).end_reading running _ _, fun spared => ?_⟩
    exact absurd spared.heard (by simp [heard])

/-! ## The end -/

theorem Tells.close (tells : Tells came stream taken seen lost last) :
    ∃ last, Tells came stream.close taken seen lost last ∧
      (Spared stream lost → Spared stream.close lost) := by
  unfold ByteLine.close
  split
  · rename_i fromReader fromWriter reading writing
    split
    · exact ⟨last, tells, id⟩
    · rename_i unclosed
      rw [Bool.not_eq_true] at unclosed
      have none := tells.unclosed unclosed
      have ended : stream.reading ≠ .running ∧ stream.writing ≠ .running := by
        simp [reading, writing]
      unfold report
      split
      · refine ⟨[.closed ((fromReader.or fromWriter).getD "")], ?_, fun spared => ?_⟩
        · exact
            { tells with
              reports := by simp [tells.reports, none]
              unclosed := fun unclosed => by simp at unclosed
              closed := fun _ => ended
              last := .inr ⟨_, rfl⟩ }
        · exact ⟨spared.heard, spared.going, spared.spent⟩
      · refine ⟨last, ?_, fun spared => ⟨spared.heard, spared.going, spared.spent⟩⟩
        exact
          { tells with
            unclosed := fun unclosed => by simp at unclosed
            closed := fun _ => ended }
  · exact ⟨last, tells, id⟩

/-! ## A move, and a run -/

theorem Tells.receive (tells : Tells came stream taken seen lost last)
    (flowing : stream.supply = .flowing) (bytes : ByteArray) :
    ∃ lost', Tells (came ++ bytes) (stream.receive bytes).2 taken seen lost' last ∧
      (Spared stream lost → Spared (stream.receive bytes).2 lost') := by
  unfold ByteLine.receive
  split
  · rename_i running
    refine ⟨lost, ?_, fun spared => ⟨spared.heard, spared.going, fun ended => ?_⟩⟩
    · refine { tells with sum := ?_ }
      rw [tells.sum, tells.kept running]
      simp [ByteArray.append_assoc]
    · exact absurd running ended
  · rename_i ended
    refine ⟨lost ++ bytes, ?_, fun spared => ⟨spared.heard, spared.going, fun _ more _ => ?_⟩⟩
    · refine { tells with sum := ?_, kept := fun running => absurd running ended }
      rw [tells.sum]
      simp [ByteArray.append_assoc]
    · have stuck := spared.spent ended (bytes ++ more) (.inl flowing)
      simpa [ByteArray.append_assoc] using stuck

theorem Tells.stopReading (tells : Tells came stream taken seen lost last) :
    Tells came stream.stopReading taken seen lost last ∧
      (Spared stream lost → Spared stream.stopReading lost) := by
  unfold ByteLine.stopReading
  split
  · rename_i stops
    rw [Bool.and_eq_true, decide_eq_true_eq] at stops
    refine ⟨tells.end_reading stops.2 _ _, fun spared => ?_⟩
    exact absurd (spared.going stops.2) (by simp [stops.1])
  · exact ⟨tells, id⟩

/-- What a move preserves. The bytes that came in and the reports grow only by what the reader or
the close of the line does; all other moves are aside. -/
theorem Tells.after? {move : StreamMove} (tells : Tells came stream taken seen lost last)
    (done : stream.after? move = some later) :
    ∃ taken seen lost' last, Tells (came ++ move.bytes) later taken seen lost' last ∧
      (move ≠ .cancel → move ≠ .deafen → (later.reading = .running → later.writing = .running) →
        Spared stream lost → Spared later lost') := by
  cases isAside : move.isAside with
  | true =>
    obtain ⟨aside, nothing⟩ := aside_of_isAside isAside done
    rw [nothing, ByteArray.append_empty]
    exact ⟨_, _, _, _, tells.aside aside, fun _ _ writing spared => spared.aside aside writing⟩
  | false =>
    have nothing : came ++ ByteArray.empty = came := ByteArray.append_empty
    cases move with
    | arrive bytes =>
      obtain ⟨flowing, same⟩ := Option.ite_none_right_eq_some.mp done
      cases same
      obtain ⟨_, tells, spared⟩ := tells.receive flowing bytes
      exact ⟨_, _, _, _, tells, fun _ _ _ => spared⟩
    | deafen =>
      cases done
      refine ⟨taken, seen, lost, last, nothing.symm ▸ { tells with whole := fun hears => ?_ },
        fun _ other => absurd rfl other⟩
      cases hears
    | cancel =>
      cases done
      exact ⟨taken, seen, lost, last, nothing.symm ▸ { tells with }, fun other => absurd rfl other⟩
    | read =>
      cases done
      obtain ⟨_, _, tells, spared⟩ := tells.read
      exact ⟨_, _, _, _, nothing.symm ▸ tells, fun _ _ _ => spared⟩
    | stopReading =>
      cases done
      exact ⟨_, _, _, _, nothing.symm ▸ tells.stopReading.1, fun _ _ _ => tells.stopReading.2⟩
    | close =>
      cases done
      obtain ⟨_, tells, spared⟩ := tells.close
      exact ⟨_, _, _, _, nothing.symm ▸ tells, fun _ _ _ => spared⟩
    | finish | breakOff | send | hangUp | jam | write | stopWriting => cases isAside

/-- What a run preserves. -/
theorem StreamRun.tells {past : StreamPast} (run : StreamRun past stream) :
    ∃ taken seen lost last, Tells (cameIn past) stream taken seen lost last ∧
      (Undisturbed past stream → Spared stream lost) := by
  induction run with
  | opening =>
    refine ⟨[], [], .empty, [], ?_, fun _ => ?_⟩
    · exact
        { sum := by simp [cameIn, train]
          within := by simp
          kept := fun _ => rfl
          reports := rfl
          early := List.prefix_rfl
          whole := fun _ => rfl
          unclosed := fun _ => rfl
          closed := fun closed => by cases closed
          last := .inl rfl }
    · exact ⟨rfl, fun _ => rfl, fun ended => absurd rfl ended⟩
  | @next past stream later move _ done ih =>
    obtain ⟨taken, seen, lost, last, tells, spared⟩ := ih
    obtain ⟨taken, seen, lost, last, tells, kept⟩ := tells.after? done
    refine ⟨taken, seen, lost, last, tells, fun undisturbed => ?_⟩
    exact kept (undisturbed.uncancelled (stream, move) (by simp))
      (undisturbed.heard (stream, move) (by simp)) undisturbed.writing
      (spared undisturbed.earlier)

/-! ## A reader that comes to rest -/

/-- The reader rests, or takes at least the four bytes of a length. -/
theorem read_rests_or_takes (stream : ByteLine) :
    stream.read.read = stream.read ∨ stream.read.arrived.size + 4 ≤ stream.arrived.size := by
  have ended {stream : ByteLine} {reason : String} :
      (stream.endReading reason).read = stream.endReading reason := rfl
  rcases read_cases stream with ⟨-, idle⟩ | ⟨reason, _, _, turn⟩ | ⟨body, rest, _, read, turn⟩
  · left
    rw [idle, idle]
  · left
    rw [turn, ended]
  · right
    have size : stream.arrived.size = 4 + body.size + rest.size := by
      rw [(readBody_eq_body_iff.mp read).2, ByteArray.size_append, size_bundle]
    rcases turn with ⟨-, turn⟩ | ⟨-, turn | turn⟩ <;> rw [turn] <;>
      simp only [endReading] <;> omega

theorem arrived_read {body rest : ByteArray} (running : stream.reading = .running)
    (read : readBody stream.arrived stream.supply = .body body rest) :
    stream.read.arrived = rest := by
  rcases read_cases stream with ⟨waits, -⟩ | ⟨_, _, ends, -⟩ | ⟨_, _, _, found, turn⟩
  · simp [waits running] at read
  · simp [read] at ends
  · rw [read] at found
    cases found
    rcases turn with ⟨-, turn⟩ | ⟨-, turn | turn⟩ <;> exact congrArg ByteLine.arrived turn

/-- After a turn for every four bytes and one more the reader rests. -/
theorem readAll_rests {turns : Nat} (enough : stream.arrived.size < 4 * turns) :
    (stream.readAll turns).read = stream.readAll turns := by
  rw [readAll_eq_iterate]
  exact iterate_rests (fun stream => stream.arrived.size) read_rests_or_takes enough

/-- A turn of the reader leaves the writer at work. -/
theorem Undisturbed.read {past : StreamPast} (undisturbed : Undisturbed past stream) :
    Undisturbed ((stream, .read) :: past) stream.read where
  uncancelled := by simpa using undisturbed.uncancelled
  heard := by simpa using undisturbed.heard
  written := by simpa using ⟨undisturbed.writing, fun a b => undisturbed.written (a, b)⟩
  writing := by
    rcases read_cases stream with ⟨-, idle⟩ | ⟨reason, _, _, turn⟩ | ⟨body, rest, running, _, turn⟩
    · rw [idle]
      exact undisturbed.writing
    · rw [turn]
      intro running
      cases running
    · rcases turn with ⟨-, turn⟩ | ⟨-, turn | turn⟩
      · rw [turn]
        exact undisturbed.writing
      · rw [turn]
        exact undisturbed.writing
      · rw [turn]
        intro running
        cases running

/-- Turns of the reader go on with a run, bring nothing in and disturb nobody. -/
theorem StreamRun.readAll {past : StreamPast} (run : StreamRun past stream) (turns : Nat) :
    ∃ past', StreamRun past' (stream.readAll turns) ∧ cameIn past' = cameIn past ∧
      (Undisturbed past stream → Undisturbed past' (stream.readAll turns)) := by
  induction turns generalizing past stream with
  | zero => exact ⟨past, run, rfl, id⟩
  | succ turns ih =>
    have turn : StreamRun ((stream, .read) :: past) stream.read := run.next rfl
    obtain ⟨past', run', came, kept⟩ := ih turn
    exact ⟨past', run', came.trans ByteArray.append_empty,
      fun undisturbed => kept undisturbed.read⟩

/-! ## All reports -/

/-- Where the reader rests, no body stands whole at the front of what it has not taken. -/
theorem Tells.isStuck_of_rests (tells : Tells came stream taken seen lost last)
    (spared : Spared stream lost) (rests : stream.read = stream) :
    IsStuck (stream.arrived ++ lost) := by
  cases running : stream.reading with
  | ended reason =>
    have stuck := spared.spent (by simp [running]) .empty (.inr rfl)
    simpa using stuck
  | running =>
    rw [tells.kept running, ByteArray.append_empty, isStuck_iff stream.supply]
    intro body rest read
    have less := size_rest_lt_of_readBody read
    rw [← arrived_read running read, rests] at less
    omega

theorem Tells.taken_early (tells : Tells came stream taken seen lost last) :
    taken <+: (bodies came).1 := by
  rw [tells.sum, bodies_train_append tells.within]
  exact List.prefix_append _ _

/-- Once an undisturbed reader rests it has taken all there is and reported all it has taken. -/
theorem Tells.seen_of_rests (tells : Tells came stream taken seen lost last)
    (spared : Spared stream lost) (rests : stream.read = stream) : seen = (bodies came).1 := by
  have cut : IsCut came taken (stream.arrived ++ lost) :=
    ⟨tells.sum, tells.within, tells.isStuck_of_rests spared rests⟩
  rw [tells.whole spared.heard, cut.bodies_eq]

theorem StreamRun.reports_of_rests {past : StreamPast} (run : StreamRun past stream)
    (undisturbed : Undisturbed past stream) (rests : stream.read = stream) :
    .connected :: (bodies (cameIn past)).1.map reportOf <+: stream.reports := by
  obtain ⟨taken, seen, lost, last, tells, spared⟩ := run.tells
  rw [tells.reports, tells.seen_of_rests (spared undisturbed) rests]
  exact List.prefix_append _ _

/-- A body that is a frame stands for it, any other body for trouble. -/
theorem reportOf_spec (body : ByteArray) :
    (∃ frame, Incoming.read.ofBytes? body = some frame ∧ reportOf body = .frame frame) ∨
      Incoming.read.ofBytes? body = none ∧ ∃ message, reportOf body = .trouble message := by
  unfold reportOf
  split
  · rename_i frame readable
    exact .inl ⟨frame, readable, rfl⟩
  · rename_i unreadable
    exact .inr ⟨unreadable, _, rfl⟩

/-- Over every run of arrivals, turns and stops: the line reports its beginning, then for the
bodies that the bytes fall into what each stands for, then its end, if that has come. Without a
disturbance no body is left out once the reader rests, and it comes to rest within its turns. -/
theorem reports_are_bodies_in_order {past : StreamPast} (run : StreamRun past stream) :
    ∃ cut rest seen last,
      IsCut (cameIn past) cut rest ∧ seen <+: cut ∧
      stream.reports = .connected :: seen.map reportOf ++ last ∧
      (∀ body ∈ cut,
        (∃ frame, Incoming.read.ofBytes? body = some frame ∧ reportOf body = .frame frame) ∨
          Incoming.read.ofBytes? body = none ∧ ∃ message, reportOf body = .trouble message) ∧
      (last = [] ∨ ∃ reason, last = [.closed reason] ∧
        stream.reading ≠ .running ∧ stream.writing ≠ .running) ∧
      (Undisturbed past stream →
        (stream.read = stream → seen = cut) ∧
        .connected :: cut.map reportOf <+:
          (stream.readAll (stream.arrived.size / 4 + 1)).reports) := by
  obtain ⟨taken, seen, lost, last, tells, spared⟩ := run.tells
  refine ⟨(bodies (cameIn past)).1, (bodies (cameIn past)).2, seen, last, isCut_bodies _,
    tells.early.trans tells.taken_early, tells.reports, fun body _ => reportOf_spec body, ?_,
    fun undisturbed => ⟨?_, ?_⟩⟩
  · rcases tells.last with none | ⟨reason, one⟩
    · exact .inl none
    · cases closed : stream.closed with
      | false => exact .inl (tells.unclosed closed)
      | true => exact .inr ⟨reason, one, tells.closed closed⟩
  · exact tells.seen_of_rests (spared undisturbed)
  · obtain ⟨past', run', came, kept⟩ := run.readAll (stream.arrived.size / 4 + 1)
    rw [← came]
    exact run'.reports_of_rests (kept undisturbed) (readAll_rests (by omega))

/-- A body that comes in two chunks, with a turn of the reader between them. -/
theorem reports_are_bodies_in_order_chunked :
    let opened : ByteLine := {}
    let begun : ByteLine := { arrived := ⟨#[1, 0]⟩ }
    let whole : ByteLine := { arrived := ⟨#[1, 0, 0, 0, 0x78]⟩ }
    let past : StreamPast := [(begun, .arrive ⟨#[0, 0, 0x78]⟩), (begun, .read),
      (opened, .arrive ⟨#[1, 0]⟩)]
    StreamRun past whole ∧ Undisturbed past whole ∧
      ∃ cut rest, IsCut (cameIn past) cut rest ∧
        .connected :: cut.map reportOf <+:
          (whole.readAll (whole.arrived.size / 4 + 1)).reports := by
  intro opened begun whole past
  have run : StreamRun past whole := ((StreamRun.opening.next rfl).next rfl).next rfl
  have undisturbed : Undisturbed past whole :=
    ⟨by simp [past], by simp [past], by simp [past, opened, begun], fun _ => rfl⟩
  obtain ⟨cut, rest, _, _, isCut, _, _, _, _, reported⟩ := reports_are_bodies_in_order run
  exact ⟨run, undisturbed, cut, rest, isCut, (reported undisturbed).2⟩

end ByteLine
end PageSession.Exchange
