import Redraft.Pattern.Engine
import Redraft.Proofs.Stop.Stream
import Redraft.Proofs.Text.Lines
import Redraft.Stop.Copy

/-!
Three ways to drive a buffer: a stream that is asked for fragments, one whose source may not
have them yet, and a copy line by line. A run of questions to a stream is followed answer by
answer. What is given depends on the text alone, and a source is not asked once the text has
ended or has been stopped.
-/

namespace Redraft.Stop

theorem Buffer.after_append (sequences : List Sequence) (read more : List Char) :
    after sequences (read ++ more) = ((after sequences read).push more).2 := by
  rw [after, push_append]
  rfl

/-- The source was asked `asked` times. Each time it had not ended before, and what had
arrived before did not complete a stop sequence. -/
def AskedInTime (sequences : List Sequence) (source : List (Poll (List Char)))
    (asked : Nat) : Prop :=
  ∀ times < asked, times ≤ source.length ∧
    (Buffer.after sequences (arrived (source.take times))).stop = none

theorem AskedInTime.again {sequences : List Sequence} {source : List (Poll (List Char))}
    {asked : Nat} (h : AskedInTime sequences source asked) (hinside : asked ≤ source.length)
    (hopen : (Buffer.after sequences (arrived (source.take asked))).stop = none) :
    AskedInTime sequences source (asked + 1) := by
  intro times htimes
  rcases Nat.lt_or_eq_of_le (Nat.le_of_lt_succ htimes) with hbefore | rfl
  · exact h times hbefore
  · exact ⟨hinside, hopen⟩

def taken (outputs : List (List Char)) (questions : Nat) : List (Option (List Char)) :=
  (List.range questions).map (outputs[·]?)

theorem taken_succ (outputs : List (List Char)) (questions : Nat) :
    taken outputs (questions + 1) = outputs.head? :: taken outputs.tail questions := by
  rw [taken, List.range_succ_eq_map, List.map_cons, List.map_map, List.head?_eq_getElem?]
  refine congrArg _ (List.map_congr_left fun place _ => ?_)
  exact List.getElem?_tail.symm

namespace PolledStream

def ask (stream : PolledStream) :
    (questions : Nat) → List (Poll (Option (List Char))) × PolledStream
  | 0 => ([], stream)
  | questions + 1 =>
    ((stream.poll.1 :: (stream.poll.2.ask questions).1), (stream.poll.2.ask questions).2)

/-- How a run of questions is answered. The answers that are ready are the fragments to come,
one after the other, and that there is none from then on. The others are the waits of the
source. -/
structure Answered (stream : PolledStream) (answers : List (Poll (Option (List Char))))
    (rest : PolledStream) : Prop where
  given : answers.filterMap Poll.value? =
    taken stream.arriving.outputs (answers.filterMap Poll.value?).length
  waits : answers.count .waiting + rest.waits = stream.waits
  forGood : answers.Pairwise fun earlier later => earlier = .ready none → later = .ready none
  stopped : .ready none ∈ answers → rest.state.stop = stream.arriving.finalStop

theorem ask_of_closed {stream : PolledStream} (hready : stream.state.ready = [])
    (hclosed : stream.state.isClosed = true) (questions : Nat) :
    stream.ask questions = (List.replicate questions (.ready none), stream) := by
  induction questions with
  | zero => rfl
  | succ questions ih =>
      rw [ask, poll, poll_go_of_closed hready hclosed]
      dsimp only
      rw [ih]
      rfl

theorem answered_ask (stream : PolledStream)
    (hexhausted : stream.state.exhausted = true → stream.state.buffer.isDone = true)
    (questions : Nat) :
    Answered stream (stream.ask questions).1 (stream.ask questions).2 := by
  induction questions generalizing stream with
  | zero => exact ⟨rfl, Nat.zero_add _, .nil, nofun⟩
  | succ questions ih =>
      have steps := steps_go stream.state stream.source hexhausted
      change Steps stream stream.poll at steps
      -- Waiting leaves the fragments to come as they are, a ready answer takes the first.
      rw [ask]
      generalize stream.poll = answer at steps
      cases steps with
      | @waiting rest outputs_eq finalStop_eq waits_eq exhausted =>
          have answered := ih rest exhausted
          dsimp only
          refine ⟨?_, ?_, .cons nofun answered.forGood, ?_⟩
          · rw [← outputs_eq]
            exact answered.given
          · have hwaits := answered.waits
            rw [List.count_cons_self]
            omega
          · intro hend
            rw [← finalStop_eq]
            exact answered.stopped ((List.mem_cons.1 hend).resolve_left nofun)
      | @ready fragment rest steps waits_eq closed =>
          have answered := ih rest steps.exhausted
          have hclosed (hnone : fragment = none) :
              rest.ask questions = (List.replicate questions (.ready none), rest) :=
            ask_of_closed (closed hnone).1 (closed hnone).2 questions
          dsimp only
          refine ⟨?_, ?_, .cons ?_ answered.forGood, ?_⟩
          · have hlater := answered.given
            rw [steps.outputs_eq] at hlater
            rw [List.filterMap_cons, Poll.value?]
            dsimp only
            rw [List.length_cons, taken_succ, ← hlater]
            exact congrArg (· :: _) steps.answer_eq
          · have hwaits := answered.waits
            have hready : Poll.ready fragment ≠ .waiting := nofun
            rw [List.count_cons_of_ne hready]
            omega
          · intro later hlater hnone
            rw [hclosed (Poll.ready.inj hnone)] at hlater
            exact List.eq_of_mem_replicate hlater
          · intro hend
            rcases List.mem_cons.1 hend with hnone | hlater
            · obtain rfl := Poll.ready.inj hnone
              rw [hclosed rfl]
              exact steps.stop_of_none
            · exact (answered.stopped hlater).trans steps.finalStop_eq

/-- A stream has asked its source in time and has left the rest of it. Until the source has
ended the buffer is fed with what arrived. -/
structure Listens (sequences : List Sequence) (source : List (Poll (List Char)))
    (stream : PolledStream) : Prop where
  source_eq : stream.source = source.drop stream.state.asked
  heard : stream.state.exhausted = false → stream.state.asked ≤ source.length ∧
    stream.state.buffer = Buffer.after sequences (arrived (source.take stream.state.asked))
  inTime : AskedInTime sequences source stream.state.asked

section Listens

variable {sequences : List Sequence} {source : List (Poll (List Char))}

theorem listens_new (sequences : List Sequence) (source : List (Poll (List Char))) :
    Listens sequences source (new sequences source) where
  source_eq := rfl
  heard _ := ⟨Nat.zero_le _, rfl⟩
  inTime _ htimes := absurd htimes (Nat.not_lt_zero _)

theorem Listens.inTime_again {state : StreamState} {rest : List (Poll (List Char))}
    (h : Listens sequences source ⟨rest, state⟩) (hopen : ¬state.isClosed = true) :
    AskedInTime sequences source (state.asked + 1) := by
  obtain ⟨hgoing, hstop⟩ := StreamState.of_open hopen
  obtain ⟨hinside, hbuffer⟩ := h.heard hgoing
  dsimp only at hinside hbuffer
  rw [hbuffer] at hstop
  exact h.inTime.again hinside hstop

theorem arrived_take_succ {asked : Nat} {item : Poll (List Char)} {rest : List (Poll (List Char))}
    (hrest : item :: rest = source.drop asked) :
    rest = source.drop (asked + 1) ∧ asked + 1 ≤ source.length ∧
      arrived (source.take (asked + 1)) =
        arrived (source.take asked) ++ item.value?.getD [] := by
  have hitem : source[asked]? = some item := by
    rw [← List.head?_drop, ← hrest]
    rfl
  refine ⟨?_, (List.getElem?_eq_some_iff.1 hitem).1, ?_⟩
  · rw [← List.tail_drop, ← hrest]
    rfl
  · rw [List.take_add_one, hitem, arrived, arrived, List.filterMap_append, List.flatten_append]
    cases item with
    | waiting => rfl
    | ready fragment => exact congrArg _ (List.append_nil fragment)

theorem Listens.go {state : StreamState} {rest : List (Poll (List Char))}
    (h : Listens sequences source ⟨rest, state⟩) :
    Listens sequences source (poll.go state rest).2 := by
  fun_induction poll.go state rest with
  | case1 state rest fragment ready hready => exact ⟨h.source_eq, h.heard, h.inTime⟩
  | case2 state rest hready hclosed => exact h
  | case3 state hready hopen last closed hclose =>
      have hagain := h.inTime_again hopen
      cases hclose
      refine ⟨?_, fun hgoing => Bool.noConfusion hgoing, hagain⟩
      have hsource := List.drop_eq_nil_iff.1 h.source_eq.symm
      exact (List.drop_eq_nil_of_le (Nat.le_succ_of_le hsource)).symm
  | case4 state hready hopen rest =>
      obtain ⟨hrest, hinside, harrived⟩ := arrived_take_succ h.source_eq
      refine ⟨hrest, fun hgoing => ⟨hinside, ?_⟩, h.inTime_again hopen⟩
      dsimp only
      rw [harrived]
      exact (h.heard hgoing).2.trans (congrArg _ (List.append_nil _).symm)
  | case5 state hready hopen fragment rest ih =>
      obtain ⟨hrest, hinside, harrived⟩ := arrived_take_succ h.source_eq
      refine ih ⟨hrest, fun hgoing => ⟨hinside, ?_⟩, h.inTime_again hopen⟩
      have hbuffer := (h.heard hgoing).2
      dsimp only [StreamState.receive] at hbuffer ⊢
      rw [harrived, Buffer.after_append, hbuffer]
      rfl

theorem Listens.ask {stream : PolledStream} (h : Listens sequences source stream)
    (questions : Nat) : Listens sequences source (stream.ask questions).2 := by
  induction questions generalizing stream with
  | zero => exact h
  | succ questions ih => exact ih h.go

end Listens

/-- What a stream gives, fragment by fragment, and which stop sequence it ends with, however
often it is asked. -/
structure Gives (stream : PolledStream) (pieces : List (List Char))
    (stop : Option (List Char)) : Prop where
  fragments_eq : stream.fragments.1 = pieces
  stop_eq : stream.fragments.2.state.stop = stop
  given : ∀ questions, (stream.ask questions).1.filterMap Poll.value? =
    taken pieces ((stream.ask questions).1.filterMap Poll.value?).length
  waits : ∀ questions,
    (stream.ask questions).1.count .waiting ≤ stream.source.count .waiting
  forGood : ∀ questions, (stream.ask questions).1.Pairwise
    fun earlier later => earlier = .ready none → later = .ready none
  stopped : ∀ questions, .ready none ∈ (stream.ask questions).1 →
    (stream.ask questions).2.state.stop = stop

theorem gives_new (sequences : List Sequence) (source : List (Poll (List Char))) :
    Gives (new sequences source) (pieces sequences (arrived source))
      (Buffer.after sequences (arrived source)).stop := by
  have answered (questions : Nat) := answered_ask (new sequences source) nofun questions
  exact {
    fragments_eq := (fragments_eq_pieces sequences source).1
    stop_eq := (fragments_eq_pieces sequences source).2
    given questions := (answered questions).given
    waits questions := Nat.le.intro (answered questions).waits
    forGood questions := (answered questions).forGood
    stopped questions := (answered questions).stopped }

end PolledStream

namespace Stream

def ask (stream : Stream) : (questions : Nat) → List (Option (List Char)) × Stream
  | 0 => ([], stream)
  | questions + 1 =>
    ((stream.next.1 :: (stream.next.2.ask questions).1), (stream.next.2.ask questions).2)

theorem ask_polled (stream : Stream) (questions : Nat) :
    stream.polled.ask questions =
      ((stream.ask questions).1.map .ready, (stream.ask questions).2.polled) := by
  induction questions generalizing stream with
  | zero => rfl
  | succ questions ih =>
      rw [PolledStream.ask, poll_polled]
      dsimp only
      rw [ih]
      rfl

theorem length_ask (stream : Stream) (questions : Nat) :
    (stream.ask questions).1.length = questions := by
  induction questions generalizing stream with
  | zero => rfl
  | succ questions ih => exact congrArg (· + 1) (ih _)

structure Gives (stream : Stream) (pieces : List (List Char)) (stop : Option (List Char)) :
    Prop where
  fragments_eq : stream.fragments.1 = pieces
  stop_eq : stream.fragments.2.state.stop = stop
  given : ∀ questions, (stream.ask questions).1 = taken pieces questions
  stopped : ∀ questions, none ∈ (stream.ask questions).1 →
    (stream.ask questions).2.state.stop = stop

theorem gives_new (sequences : List Sequence) (source : List (List Char)) :
    Gives (new sequences source) (pieces sequences source.flatten)
      (Buffer.after sequences source.flatten).stop := by
  have answered (questions : Nat) : PolledStream.Answered (new sequences source).polled
      (((new sequences source).ask questions).1.map .ready)
      ((new sequences source).ask questions).2.polled := by
    have answered := PolledStream.answered_ask (new sequences source).polled nofun questions
    rwa [ask_polled] at answered
  refine ⟨(fragments_eq_pieces sequences source).1, (fragments_eq_pieces sequences source).2,
    ?_, ?_⟩
  · intro questions
    have hgiven := (answered questions).given
    rwa [Poll.filterMap_map_ready, length_ask, arriving_polled] at hgiven
  · intro questions hend
    have hstopped := (answered questions).stopped (List.mem_map_of_mem hend)
    rwa [arriving_polled] at hstopped

end Stream

def CopyEnd.ofStop : Option (List Char) → CopyEnd
  | none => .endOfInput
  | some stop => .stopped stop

section Copy

variable {sequences : List Sequence} {read : List Char}

theorem Buffer.copy_cons (read line : List Char) (lines : List (Option (List Char))) :
    (after sequences read).copy (some line :: lines) =
      match (after sequences (read ++ line)).stop with
      | some stop => ⟨((after sequences read).push line).1.flatten, .stopped stop, 1⟩
      | none =>
        let copied := (after sequences (read ++ line)).copy lines
        { copied with
          written := ((after sequences read).push line).1.flatten ++ copied.written
          asked := copied.asked + 1 } := by
  rw [copy, copyLine, after_append]
  dsimp only
  cases ((after sequences read).push line).2.stop <;> rfl

theorem Buffer.copy_after (hopen : (after sequences read).stop = none)
    (lines : List (List Char)) :
    let copied := (after sequences read).copy (lines.map some)
    let rest := (after sequences read).push lines.flatten
    copied.written = (rest.1 ++ rest.2.finish.1.toList).flatten ∧
      copied.ending = .ofStop rest.2.stop ∧
        ∀ times < copied.asked, times ≤ lines.length ∧
          (after sequences (read ++ (lines.take times).flatten)).stop = none := by
  -- Each line is pushed onto what the lines before it have left, so `read` varies.
  induction lines generalizing read with
  | nil =>
      refine ⟨getD_finish _, ?_, ?_⟩
      · exact congrArg CopyEnd.ofStop hopen.symm
      · intro times htimes
        obtain rfl := Nat.lt_one_iff.1 htimes
        exact ⟨Nat.le_refl 0, by rwa [List.take_nil, List.flatten_nil, List.append_nil]⟩
  | cons line lines ih =>
      have hnone : ∀ times, times = 0 → times ≤ (line :: lines).length ∧
          (after sequences (read ++ ((line :: lines).take times).flatten)).stop = none := by
        rintro times rfl
        exact ⟨Nat.zero_le _, by rwa [List.take_zero, List.flatten_nil, List.append_nil]⟩
      dsimp only
      rw [List.map_cons, copy_cons, List.flatten_cons, push_append, ← after_append]
      cases hstop : (after sequences (read ++ line)).stop with
      | some stop =>
          have hdone : (after sequences (read ++ line)).isDone = true := by
            rw [isDone_after, hstop]
            rfl
          rw [push_of_isDone hdone, finish_of_isDone hdone]
          refine ⟨?_, ?_, fun times htimes => hnone times (Nat.lt_one_iff.1 htimes)⟩
          · rw [List.append_nil, Option.toList_none, List.append_nil]
          · exact congrArg CopyEnd.ofStop hstop.symm
      | none =>
          obtain ⟨hwritten, hending, hasked⟩ := ih hstop
          refine ⟨?_, hending, ?_⟩
          · dsimp only
            rw [hwritten, List.append_assoc, ← List.flatten_append]
          · intro times htimes
            cases times with
            | zero => exact hnone 0 rfl
            | succ times =>
                obtain ⟨hinside, hgoing⟩ := hasked times (Nat.lt_of_succ_lt_succ htimes)
                refine ⟨Nat.succ_le_succ hinside, ?_⟩
                rwa [List.take_succ_cons, List.flatten_cons, ← List.append_assoc]

/-- A copy of all lines of a text writes what streams give for it. -/
theorem copy_lines (sequences : List Sequence) (text : List Char) :
    let copied := copy sequences (Text.linesOfBytes (Text.utf8 text))
    copied.written = (pieces sequences text).flatten ∧
      copied.ending = .ofStop (Buffer.after sequences text).stop ∧
        AskedInTime sequences ((Text.linesWithEnds text).map .ready) copied.asked := by
  have hopen : (Buffer.after sequences []).stop = none := rfl
  obtain ⟨hwritten, hending, hasked⟩ := Buffer.copy_after hopen (Text.linesWithEnds text)
  have htext : (Text.linesWithEnds text).flatten = text := Text.flatten_cutAfter _ _
  rw [htext] at hwritten hending
  dsimp only
  rw [Text.linesOfBytes_utf8]
  refine ⟨hwritten, hending, ?_⟩
  intro times htimes
  rw [List.length_map, ← List.map_take, arrived_map_ready]
  exact hasked times htimes

end Copy

/-- All ways to drive a buffer agree on a text, however it is cut into fragments and however
long they take to arrive: streams give the same fragments one by one, then that there is none
for good, and the same stop sequence, and a copy of the text writes these fragments. No source
is asked for more once the text has ended or has been stopped. -/
theorem drivers_agree (engine : Pattern.Engine) (texts : List (List Char)) (text : List Char) :
    let sequences := Stop.sequences engine texts
    let pieces := Stop.pieces sequences text
    let stop := (Buffer.after sequences text).stop
    (∀ source : List (List Char), source.flatten = text →
        let stream := Stream.new sequences source
        stream.Gives pieces stop ∧ ∀ questions,
          PolledStream.Listens sequences (source.map .ready) (stream.ask questions).2.polled) ∧
      (∀ source : List (Poll (List Char)), arrived source = text →
        let stream := PolledStream.new sequences source
        stream.Gives pieces stop ∧ ∀ questions,
          PolledStream.Listens sequences source (stream.ask questions).2) ∧
        let copied := copy sequences (Text.linesOfBytes (Text.utf8 text))
        copied.written = pieces.flatten ∧ copied.ending = .ofStop stop ∧
          AskedInTime sequences ((Text.linesWithEnds text).map .ready) copied.asked := by
  refine ⟨?_, ?_, copy_lines _ text⟩
  · rintro source rfl
    refine ⟨Stream.gives_new _ source, fun questions => ?_⟩
    have listens := (PolledStream.listens_new (Stop.sequences engine texts) (source.map .ready)).ask
      questions
    have hask := Stream.ask_polled (Stream.new (Stop.sequences engine texts) source) questions
    change PolledStream.Listens _ _ ((Stream.new _ source).polled.ask questions).2 at listens
    rwa [hask] at listens
  · rintro source rfl
    exact ⟨PolledStream.gives_new _ source, (PolledStream.listens_new _ source).ask⟩

/-- A pattern stops the text, and its first characters arrive late and in two fragments. -/
theorem drivers_agree_late :
    let sequences := Stop.sequences Pattern.engine ["END".toList, "r/[0-9]+!/".toList]
    let text := "a 42! b".toList
    let fragments := ["a 42".toList, "! b".toList]
    let source : List (Poll (List Char)) :=
      [.waiting, .ready "a 4".toList, .waiting, .ready [], .ready "2! b".toList]
    let copied := copy sequences (Text.linesOfBytes (Text.utf8 text))
    fragments.flatten = text ∧ arrived source = text ∧
      (Stream.new sequences fragments).Gives ["a".toList, " ".toList, []] (some "42!".toList) ∧
        (PolledStream.new sequences source).Gives ["a".toList, " ".toList, []]
            (some "42!".toList) ∧
          copied.written = "a ".toList ∧ copied.ending = .stopped "42!".toList := by
  intro sequences text fragments source copied
  have hpieces : pieces sequences text = ["a".toList, " ".toList, []] := by decide +kernel
  have hstop : (Buffer.after sequences text).stop = some "42!".toList := by decide +kernel
  have hfragments : fragments.flatten = text := by decide
  have hsource : arrived source = text := by decide
  obtain ⟨hstream, hpolled, hwritten, hending, -⟩ :=
    drivers_agree Pattern.engine ["END".toList, "r/[0-9]+!/".toList] text
  have hgives := (hstream fragments hfragments).1
  have hlate := (hpolled source hsource).1
  change (Stream.new sequences fragments).Gives (pieces sequences text)
    (Buffer.after sequences text).stop at hgives
  change (PolledStream.new sequences source).Gives (pieces sequences text)
    (Buffer.after sequences text).stop at hlate
  change copied.written = (pieces sequences text).flatten at hwritten
  change copied.ending = .ofStop (Buffer.after sequences text).stop at hending
  rw [hpieces] at hgives hlate hwritten
  rw [hstop] at hgives hlate hending
  exact ⟨hfragments, hsource, hgives, hlate, hwritten, hending⟩

end Redraft.Stop
