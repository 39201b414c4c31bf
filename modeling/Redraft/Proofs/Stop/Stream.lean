import Redraft.Proofs.Stop.Buffer
import Redraft.Stop.Stream

namespace Redraft.Stop

namespace Buffer

theorem finish_snd_stop (buffer : Buffer) : buffer.finish.2.stop = buffer.stop := by
  rw [finish]
  split <;> rfl

theorem finish_snd_isDone (buffer : Buffer) : buffer.finish.2.isDone = true := by
  rw [finish]
  split
  · assumption
  · rfl

theorem finish_flatten (buffer : Buffer) :
    buffer.finish.1.toList.flatten = if buffer.isDone then [] else buffer.pending := by
  rw [finish]
  split
  · rfl
  · split
    · rename_i hempty
      rw [List.isEmpty_iff.1 hempty]
      rfl
    · simp

theorem getD_finish (buffer : Buffer) :
    buffer.finish.1.getD [] = buffer.finish.1.toList.flatten := by
  cases buffer.finish.1 <;> simp

theorem finish_getD {buffer : Buffer} (h : buffer.isDone = false) :
    buffer.finish.1.getD [] = buffer.pending := by
  have hflatten := buffer.finish_flatten
  rw [h, if_neg Bool.false_ne_true] at hflatten
  rw [getD_finish, hflatten]

theorem length_push_le (buffer : Buffer) (fragment : List Char) :
    (buffer.push fragment).1.length ≤ fragment.length := by
  induction fragment generalizing buffer with
  | nil => exact Nat.le_refl 0
  | cons c fragment ih =>
      rw [push_cons]
      split
      · exact Nat.zero_le _
      · have hone : (buffer.pushChar c).1.length ≤ 1 := by
          unfold pushChar
          dsimp only
          split
          · exact Nat.le_refl 1
          · split
            · exact Nat.zero_le 1
            · exact Nat.le_refl 1
          · exact Nat.le_refl 1
        have hrest := ih (buffer.pushChar c).2
        rw [List.length_append, List.length_cons]
        omega

end Buffer

@[simp] theorem Poll.filterMap_map_ready {α : Type} (values : List α) :
    (values.map Poll.ready).filterMap Poll.value? = values := by
  rw [List.filterMap_map]
  exact List.filterMap_some

theorem StreamState.of_open {state : StreamState} (hopen : ¬state.isClosed = true) :
    state.exhausted = false ∧ state.buffer.stop = none := by
  rw [isClosed, Bool.not_eq_true, Bool.or_eq_false_iff] at hopen
  exact ⟨hopen.1, Option.isNone_iff_eq_none.1 (Option.isSome_eq_false_iff.1 hopen.2)⟩

namespace Stream

def outputs (stream : Stream) : List (List Char) :=
  stream.state.ready ++
    if stream.state.exhausted then []
    else
      (stream.state.buffer.push stream.source.flatten).1 ++
        (stream.state.buffer.push stream.source.flatten).2.finish.1.toList

def finalStop (stream : Stream) : Option (List Char) :=
  (stream.state.buffer.push stream.source.flatten).2.stop

/-- Asking once takes the first of the fragments to come. Where there is none, and once the
source has ended, the buffer is done. -/
structure Steps (stream : Stream) (answer : Option (List Char) × Stream) : Prop where
  answer_eq : answer.1 = stream.outputs.head?
  outputs_eq : answer.2.outputs = stream.outputs.tail
  finalStop_eq : answer.2.finalStop = stream.finalStop
  done : stream.outputs = [] → answer.2.state.buffer.isDone = true
  exhausted : answer.2.state.exhausted = true → answer.2.state.buffer.isDone = true

theorem steps_ready {state : StreamState} {source : List (List Char)} {fragment : List Char}
    {ready : List (List Char)} (hready : state.ready = fragment :: ready)
    (hexhausted : state.exhausted = true → state.buffer.isDone = true) :
    Steps ⟨source, state⟩ (some fragment, ⟨source, { state with ready }⟩) where
  answer_eq := by simp [outputs, hready]
  outputs_eq := by simp [outputs, hready]
  finalStop_eq := rfl
  done hnone := by simp [outputs, hready] at hnone
  exhausted := hexhausted

theorem isDone_of_isClosed {state : StreamState} (hclosed : state.isClosed = true)
    (hexhausted : state.exhausted = true → state.buffer.isDone = true) :
    state.buffer.isDone = true := by
  rw [StreamState.isClosed, Bool.or_eq_true] at hclosed
  rcases hclosed with hend | hstopped
  · exact hexhausted hend
  · rw [Buffer.isDone, hstopped, Bool.or_true]

theorem outputs_of_isDone {state : StreamState} {source : List (List Char)}
    (hready : state.ready = []) (hdone : state.buffer.isDone = true) :
    outputs ⟨source, state⟩ = [] := by
  simp [outputs, hready, Buffer.push_of_isDone hdone, Buffer.finish_of_isDone hdone]

theorem steps_closed {state : StreamState} {source : List (List Char)}
    (hready : state.ready = []) (hdone : state.buffer.isDone = true) :
    Steps ⟨source, state⟩ (none, ⟨source, state⟩) where
  answer_eq := by rw [outputs_of_isDone hready hdone]; rfl
  outputs_eq := by rw [outputs_of_isDone hready hdone]; rfl
  finalStop_eq := rfl
  done _ := hdone
  exhausted _ := hdone

theorem steps_close {state : StreamState} (hready : state.ready = [])
    (hexhausted : state.exhausted = false) :
    Steps ⟨[], state⟩ (state.close.1, ⟨[], state.close.2⟩) where
  answer_eq := by
    simp only [outputs, hready, hexhausted, StreamState.close, List.flatten_nil,
      Buffer.push_nil, List.nil_append]
    cases state.buffer.finish.1 <;> rfl
  outputs_eq := by
    simp only [outputs, hready, hexhausted, StreamState.close, List.flatten_nil,
      Buffer.push_nil, List.nil_append]
    cases state.buffer.finish.1 <;> rfl
  finalStop_eq := state.buffer.finish_snd_stop
  done _ := state.buffer.finish_snd_isDone
  exhausted _ := state.buffer.finish_snd_isDone

theorem outputs_receive {state : StreamState} (source : List (List Char))
    (fragment : List Char) (hready : state.ready = []) (hexhausted : state.exhausted = false) :
    outputs ⟨source, state.receive fragment⟩ = outputs ⟨fragment :: source, state⟩ ∧
      finalStop ⟨source, state.receive fragment⟩ = finalStop ⟨fragment :: source, state⟩ := by
  simp [outputs, finalStop, StreamState.receive, hready, hexhausted, Buffer.push_append]

section Steps

variable {stream rest : Stream}

theorem Steps.outputs_of_none (steps : Steps stream (none, rest)) : stream.outputs = [] :=
  List.head?_eq_none_iff.1 steps.answer_eq.symm

theorem Steps.outputs_of_some {fragment : List Char} (steps : Steps stream (some fragment, rest)) :
    stream.outputs = fragment :: rest.outputs := by
  obtain ⟨others, houtputs⟩ := List.head?_eq_some_iff.1 steps.answer_eq.symm
  have hrest := steps.outputs_eq
  rw [houtputs, List.tail_cons] at hrest
  rw [houtputs, hrest]

theorem Steps.stop_of_none (steps : Steps stream (none, rest)) :
    rest.state.stop = stream.finalStop := by
  rw [← steps.finalStop_eq, finalStop, Buffer.push_of_isDone (steps.done steps.outputs_of_none)]
  rfl

end Steps

end Stream

namespace PolledStream

def arriving (stream : PolledStream) : Stream :=
  ⟨stream.source.filterMap Poll.value?, stream.state⟩

def waits (stream : PolledStream) : Nat := stream.source.count .waiting

/-- Asking once waits with the source, which leaves the fragments to come as they are, or
takes the first of them. The answer that there is none closes the stream. -/
inductive Steps (stream : PolledStream) : Poll (Option (List Char)) × PolledStream → Prop where
  | waiting {rest : PolledStream}
      (outputs_eq : rest.arriving.outputs = stream.arriving.outputs)
      (finalStop_eq : rest.arriving.finalStop = stream.arriving.finalStop)
      (waits_eq : rest.waits + 1 = stream.waits)
      (exhausted : rest.state.exhausted = true → rest.state.buffer.isDone = true) :
      Steps stream (.waiting, rest)
  | ready {answer : Option (List Char)} {rest : PolledStream}
      (steps : Stream.Steps stream.arriving (answer, rest.arriving))
      (waits_eq : rest.waits = stream.waits)
      (closed : answer = none → rest.state.ready = [] ∧ rest.state.isClosed = true) :
      Steps stream (.ready answer, rest)

theorem Steps.congr {stream other : PolledStream}
    {answer : Poll (Option (List Char)) × PolledStream} (steps : Steps stream answer)
    (houtputs : stream.arriving.outputs = other.arriving.outputs)
    (hstop : stream.arriving.finalStop = other.arriving.finalStop)
    (hwaits : stream.waits = other.waits) : Steps other answer := by
  cases steps with
  | waiting outputs_eq finalStop_eq waits_eq exhausted =>
      exact .waiting (outputs_eq.trans houtputs) (finalStop_eq.trans hstop)
        (waits_eq.trans hwaits) exhausted
  | ready steps waits_eq closed =>
      exact .ready ⟨steps.answer_eq.trans (congrArg _ houtputs),
        steps.outputs_eq.trans (congrArg _ houtputs), steps.finalStop_eq.trans hstop,
        fun hnone => steps.done (houtputs.trans hnone), steps.exhausted⟩
        (waits_eq.trans hwaits) closed

theorem steps_go (state : StreamState) (source : List (Poll (List Char)))
    (hexhausted : state.exhausted = true → state.buffer.isDone = true) :
    Steps ⟨source, state⟩ (poll.go state source) := by
  -- The last case is the loop: what is received is still to come, now from the ready ones.
  fun_induction poll.go state source with
  | case1 state source fragment ready hready =>
      exact .ready (Stream.steps_ready hready hexhausted) rfl nofun
  | case2 state source hready hclosed =>
      exact .ready (Stream.steps_closed hready (Stream.isDone_of_isClosed hclosed hexhausted)) rfl
        fun _ => ⟨hready, hclosed⟩
  | case3 state hready hopen rest last hclose =>
      have hgoing := (StreamState.of_open hopen).1
      have steps := Stream.steps_close hready hgoing
      rw [hclose] at steps
      refine .ready steps rfl fun _ => ?_
      cases hclose
      exact ⟨hready, rfl⟩
  | case4 state hready hopen source =>
      exact .waiting rfl rfl List.count_cons_self.symm hexhausted
  | case5 state hready hopen fragment source ih =>
      have hgoing := (StreamState.of_open hopen).1
      obtain ⟨houtputs, hstop⟩ :=
        Stream.outputs_receive (source.filterMap Poll.value?) fragment hready hgoing
      have hreceived : (state.receive fragment).exhausted = false := hgoing
      have steps := ih fun hend => absurd (hreceived.symm.trans hend) Bool.false_ne_true
      exact steps.congr houtputs hstop rfl

theorem poll_go_of_closed {state : StreamState} (hready : state.ready = [])
    (hclosed : state.isClosed = true) (source : List (Poll (List Char))) :
    poll.go state source = (.ready none, ⟨source, state⟩) := by
  unfold poll.go
  rw [hready]
  dsimp only
  rw [if_pos hclosed]

theorem drain_eq {fuel : Nat} {stream : PolledStream}
    (hfuel : stream.arriving.outputs.length + stream.waits < fuel)
    (hexhausted : stream.state.exhausted = true → stream.state.buffer.isDone = true) :
    (stream.drain fuel).1 = stream.arriving.outputs ∧
      (stream.drain fuel).2.state.stop = stream.arriving.finalStop := by
  induction fuel generalizing stream with
  | zero => exact absurd hfuel (Nat.not_lt_zero _)
  | succ fuel ih =>
      have steps := steps_go stream.state stream.source hexhausted
      change Steps stream stream.poll at steps
      rw [drain]
      generalize stream.poll = answer at steps
      cases steps with
      | waiting outputs_eq finalStop_eq waits_eq exhausted =>
          rw [← outputs_eq, ← finalStop_eq]
          exact ih (by rw [outputs_eq]; omega) exhausted
      | @ready fragment rest steps waits_eq closed =>
          cases fragment with
          | none => exact ⟨steps.outputs_of_none.symm, steps.stop_of_none⟩
          | some fragment =>
              have houtputs := steps.outputs_of_some
              rw [houtputs, List.length_cons] at hfuel
              have hless : rest.arriving.outputs.length + rest.waits < fuel := by omega
              obtain ⟨hfragments, hstop⟩ := ih hless steps.exhausted
              dsimp only
              rw [hfragments, houtputs, hstop]
              exact ⟨rfl, steps.finalStop_eq⟩

end PolledStream

namespace Stream

def polled (stream : Stream) : PolledStream := ⟨stream.source.map .ready, stream.state⟩

@[simp] theorem arriving_polled (stream : Stream) : stream.polled.arriving = stream := by
  rw [polled, PolledStream.arriving, Poll.filterMap_map_ready]

@[simp] theorem waits_polled (stream : Stream) : stream.polled.waits = 0 := by
  refine List.count_eq_zero.2 fun hmem => ?_
  obtain ⟨fragment, -, hwaiting⟩ := List.mem_map.1 hmem
  cases hwaiting

theorem poll_go_map_ready (state : StreamState) (source : List (List Char)) :
    PolledStream.poll.go state (source.map .ready) =
      (.ready (next.go state source).1, (next.go state source).2.polled) := by
  fun_induction next.go state source with
  | case1 state source fragment ready hready =>
      unfold PolledStream.poll.go
      rw [hready]
      rfl
  | case2 source state hready hclosed => exact PolledStream.poll_go_of_closed hready hclosed _
  | case3 state hready hopen rest last hclose =>
      unfold PolledStream.poll.go
      rw [hready]
      dsimp only [List.map_nil]
      rw [if_neg hopen, hclose]
      rfl
  | case4 state hready hopen fragment source ih =>
      unfold PolledStream.poll.go
      rw [hready]
      dsimp only [List.map_cons]
      rw [if_neg hopen]
      exact ih

theorem poll_polled (stream : Stream) :
    stream.polled.poll = (.ready stream.next.1, stream.next.2.polled) :=
  poll_go_map_ready stream.state stream.source

theorem drain_polled (fuel : Nat) (stream : Stream) :
    stream.polled.drain fuel = ((stream.drain fuel).1, (stream.drain fuel).2.polled) := by
  induction fuel generalizing stream with
  | zero => rfl
  | succ fuel ih =>
      rw [PolledStream.drain, poll_polled, drain]
      obtain ⟨fragment, rest⟩ := stream.next
      cases fragment with
      | none => rfl
      | some fragment =>
          dsimp only
          rw [ih]

theorem drain_eq {fuel : Nat} {stream : Stream} (hfuel : stream.outputs.length < fuel)
    (hexhausted : stream.state.exhausted = true → stream.state.buffer.isDone = true) :
    (stream.drain fuel).1 = stream.outputs ∧
      (stream.drain fuel).2.state.stop = stream.finalStop := by
  have hpolled : stream.polled.arriving.outputs.length + stream.polled.waits < fuel := by
    rwa [arriving_polled, waits_polled]
  have hdrain := PolledStream.drain_eq hpolled hexhausted
  rwa [drain_polled, arriving_polled] at hdrain

end Stream

def arrived (source : List (Poll (List Char))) : List Char :=
  (source.filterMap Poll.value?).flatten

@[simp] theorem arrived_map_ready (source : List (List Char)) :
    arrived (source.map .ready) = source.flatten := by
  rw [arrived, Poll.filterMap_map_ready]

/-- All that a text gives: the fragments released while it is read, and what is left at its
end. -/
def pieces (sequences : List Sequence) (text : List Char) : List (List Char) :=
  ((Buffer.new sequences).push text).1 ++ (Buffer.after sequences text).finish.1.toList

section Pieces

variable (sequences : List Sequence)

theorem length_pieces_le (text : List Char) :
    (pieces sequences text).length ≤ text.length + 1 := by
  have hpush := (Buffer.new sequences).length_push_le text
  have hone : (Buffer.after sequences text).finish.1.toList.length ≤ 1 := by
    cases (Buffer.after sequences text).finish.1 <;> simp
  rw [pieces, List.length_append]
  omega

theorem flatten_pieces (text : List Char) :
    (pieces sequences text).flatten =
      Buffer.released sequences text ++
        (if (Buffer.after sequences text).stop.isSome then []
          else (Buffer.after sequences text).pending) := by
  rw [pieces, List.flatten_append, Buffer.finish_flatten, Buffer.isDone_after]
  rfl

theorem Stream.fragments_eq_pieces (source : List (List Char)) :
    (Stream.new sequences source).fragments.1 = pieces sequences source.flatten ∧
      (Stream.new sequences source).fragments.2.state.stop =
        (Buffer.after sequences source.flatten).stop := by
  have hlength := length_pieces_le sequences source.flatten
  have hfuel : (pieces sequences source.flatten).length < 0 + source.flatten.length + 2 := by
    omega
  exact @Stream.drain_eq _ (Stream.new sequences source) hfuel nofun

theorem PolledStream.fragments_eq_pieces (source : List (Poll (List Char))) :
    (PolledStream.new sequences source).fragments.1 =
        pieces sequences (arrived source) ∧
      (PolledStream.new sequences source).fragments.2.state.stop =
        (Buffer.after sequences (arrived source)).stop := by
  have hlength := length_pieces_le sequences (arrived source)
  have hwaits : source.count .waiting ≤ source.length := List.count_le_length
  have hfuel : (pieces sequences (arrived source)).length +
      source.count .waiting <
        0 + source.length + (arrived source).length + 2 := by
    omega
  exact @PolledStream.drain_eq _ (PolledStream.new sequences source) hfuel nofun

/-- A stream gives what its buffer releases while reading the whole text and, if nothing
stopped it, what is left at the end. -/
theorem Stream.fragments_eq (source : List (List Char)) :
    (Stream.new sequences source).fragments.1.flatten =
        Buffer.released sequences source.flatten ++
          (if (Buffer.after sequences source.flatten).stop.isSome then []
            else (Buffer.after sequences source.flatten).pending) ∧
      (Stream.new sequences source).fragments.2.state.stop =
        (Buffer.after sequences source.flatten).stop := by
  obtain ⟨hfragments, hstop⟩ := Stream.fragments_eq_pieces sequences source
  rw [hfragments, flatten_pieces]
  exact ⟨rfl, hstop⟩

end Pieces

end Redraft.Stop
