import Redraft.Stop.Buffer

namespace Redraft.Stop

inductive Poll (α : Type) where
  | waiting
  | ready (value : α)
deriving DecidableEq, Repr

def Poll.value? {α : Type} : Poll α → Option α
  | waiting => none
  | ready value => some value

/-- What a stream still has to give, apart from its source. -/
structure StreamState where
  buffer : Buffer
  /-- Released fragments that nobody has asked for yet. -/
  ready : List (List Char) := []
  exhausted : Bool := false
  /-- How often the source was asked. -/
  asked : Nat := 0

namespace StreamState

def new (sequences : List Sequence) : StreamState := { buffer := .new sequences }

def stop (state : StreamState) : Option (List Char) := state.buffer.stop

def isClosed (state : StreamState) : Bool := state.exhausted || state.buffer.isStopped

def receive (state : StreamState) (fragment : List Char) : StreamState :=
  let (ready, buffer) := state.buffer.push fragment
  { state with buffer, ready := state.ready ++ ready, asked := state.asked + 1 }

def close (state : StreamState) : Option (List Char) × StreamState :=
  let (rest, buffer) := state.buffer.finish
  (rest, { state with buffer, exhausted := true, asked := state.asked + 1 })

end StreamState

structure Stream where
  source : List (List Char)
  state : StreamState

namespace Stream

def new (sequences : List Sequence) (source : List (List Char)) : Stream :=
  ⟨source, .new sequences⟩

def next (stream : Stream) : Option (List Char) × Stream :=
  go stream.state stream.source
where
  go (state : StreamState) (source : List (List Char)) : Option (List Char) × Stream :=
    match state.ready with
    | fragment :: ready => (some fragment, ⟨source, { state with ready }⟩)
    | [] =>
      if state.isClosed then (none, ⟨source, state⟩)
      else
        match source with
        | [] =>
          let (rest, state) := state.close
          (rest, ⟨[], state⟩)
        | fragment :: source => go (state.receive fragment) source

def drain : (fuel : Nat) → Stream → List (List Char) × Stream
  | 0, stream => ([], stream)
  | fuel + 1, stream =>
    match stream.next with
    | (none, stream) => ([], stream)
    | (some fragment, stream) =>
      let (rest, stream) := drain fuel stream
      (fragment :: rest, stream)

/-- All fragments. Each character releases at most one, and the end one more. -/
def fragments (stream : Stream) : List (List Char) × Stream :=
  stream.drain (stream.state.ready.length + stream.source.flatten.length + 2)

end Stream

/-- A stream over fragments that arrive in time: the source answers one item after the
other, and that it has ended when none is left. -/
structure PolledStream where
  source : List (Poll (List Char))
  state : StreamState

namespace PolledStream

def new (sequences : List Sequence) (source : List (Poll (List Char))) : PolledStream :=
  ⟨source, .new sequences⟩

def poll (stream : PolledStream) : Poll (Option (List Char)) × PolledStream :=
  go stream.state stream.source
where
  go (state : StreamState) (source : List (Poll (List Char))) :
      Poll (Option (List Char)) × PolledStream :=
    match state.ready with
    | fragment :: ready => (.ready (some fragment), ⟨source, { state with ready }⟩)
    | [] =>
      if state.isClosed then (.ready none, ⟨source, state⟩)
      else
        match source with
        | [] =>
          let (rest, state) := state.close
          (.ready rest, ⟨[], state⟩)
        | .waiting :: source => (.waiting, ⟨source, { state with asked := state.asked + 1 }⟩)
        | .ready fragment :: source => go (state.receive fragment) source

def drain : (fuel : Nat) → PolledStream → List (List Char) × PolledStream
  | 0, stream => ([], stream)
  | fuel + 1, stream =>
    match stream.poll with
    | (.ready none, stream) => ([], stream)
    | (.waiting, stream) => drain fuel stream
    | (.ready (some fragment), stream) =>
      let (rest, stream) := drain fuel stream
      (fragment :: rest, stream)

def fragments (stream : PolledStream) : List (List Char) × PolledStream :=
  stream.drain (stream.state.ready.length + stream.source.length +
    (stream.source.filterMap Poll.value?).flatten.length + 2)

end PolledStream

end Redraft.Stop
