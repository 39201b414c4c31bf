import Redraft.Proofs.Stop.Stream
import Redraft.Text.Offset

namespace Redraft

namespace Text

def byteLength (text : List Char) : Nat := byteOffset text text.length

theorem byteLength_append (front rest : List Char) :
    byteLength (front ++ rest) = byteLength front + byteLength rest := by
  induction front with
  | nil => rw [List.nil_append, byteLength, byteLength, List.length_nil, byteOffset_zero,
      Nat.zero_add]
  | cons c front ih =>
      simp only [byteLength, List.cons_append, List.length_cons, byteOffset_succ] at ih ⊢
      omega

theorem byteOffset_append_left (front rest : List Char) :
    byteOffset (front ++ rest) front.length = byteLength front := by
  induction front with
  | nil => simp [byteLength]
  | cons c front ih =>
      rw [List.cons_append, List.length_cons, byteOffset_succ, ih]
      rfl

theorem byteOffset_eq_byteLength_take {text : List Char} {place : Nat}
    (hinside : place ≤ text.length) : byteOffset text place = byteLength (text.take place) := by
  have hoffset := byteOffset_append_left (text.take place) (text.drop place)
  rwa [List.take_append_drop, List.length_take, Nat.min_eq_left hinside] at hoffset

/-- So many bytes are whole characters, as many as `place` says. -/
def IsBoundary (text : List Char) (place bytes : Nat) : Prop :=
  place ≤ text.length ∧ byteOffset text place = bytes

end Text

namespace Stop

variable {sequences : List Sequence}

/-- Where a text is cut that is held back. A stop is not longer than the text in bytes, and
taking its bytes from the end of the text leaves whole characters, those in front of the stop.
What is released for a hold ends in front of the last character. -/
structure CutsInside (sequences : List Sequence) (held : List Char) : Prop where
  whole : ∀ stop, classify sequences held = .whole stop →
    Text.byteLength stop ≤ Text.byteLength held ∧
      Text.IsBoundary held (held.length - stop.length)
        (Text.byteLength held - Text.byteLength stop) ∧
      held.take (held.length - stop.length) ++ stop = held
  hold : ∀ place, hold? sequences held = some place →
    place < held.length ∧
      Text.IsBoundary held place (Text.byteLength (held.take place))

theorem cutsInside (sequences : List Sequence) (held : List Char) :
    CutsInside sequences held where
  whole := by
    intro stop hwhole
    obtain ⟨front, rfl⟩ := suffix_of_classify hwhole
    have hcut : (front ++ stop).length - stop.length = front.length := by
      rw [List.length_append, Nat.add_sub_cancel]
    have hinside : front.length ≤ (front ++ stop).length := by
      rw [List.length_append]
      exact Nat.le_add_right _ _
    rw [Text.byteLength_append, Nat.add_sub_cancel, hcut, List.take_left]
    exact ⟨Nat.le_add_left _ _, ⟨hinside, Text.byteOffset_append_left front stop⟩, rfl⟩
  hold := by
    intro place hplace
    obtain ⟨sequence, -, hsequence⟩ := List.mem_map.1 (mem_of_earliest hplace)
    rw [Sequence.hold?_eq] at hsequence
    have hinside := (Sequence.deadAlong_of_holdAfter?_some hsequence).1
    exact ⟨hinside, Nat.le_of_lt hinside,
      Text.byteOffset_eq_byteLength_take (Nat.le_of_lt hinside)⟩

namespace Buffer

section Stopped

variable {read text stop : List Char} {c : Char}

theorem pending_of_stop (hproper : ∀ sequence ∈ sequences, sequence ≠ .literal [])
    (hopen : (after sequences read).stop = none)
    (hstop : (after sequences (read ++ [c])).stop = some stop) :
    (after sequences (read ++ [c])).pending = [] := by
  rw [stop_snoc hproper hopen] at hstop
  rw [after_snoc hopen]
  have hsequences : (after sequences read).sequences = sequences := sequences_after
  generalize after sequences read = buffer at hopen hsequences hstop
  subst hsequences
  rw [pushChar_of_some hproper hstop]

theorem exists_stopsAt (hproper : ∀ sequence ∈ sequences, sequence ≠ .literal [])
    (hstop : (after sequences text).stop = some stop) :
    ∃ read, read <+: text ∧ StopsAt sequences read stop ∧
      (after sequences text).pending = [] := by
  rcases exists_first_or_none (fun read => (after sequences read).stop) text with
    hnone | ⟨read, stop', hfirst⟩
  · rw [hnone text List.prefix_rfl] at hstop
    cases hstop
  · rcases List.eq_nil_or_concat read with hempty | ⟨front, c, hconcat⟩
    · have hfound := hfirst.found
      rw [hempty] at hfound
      cases hfound
    · rw [List.concat_eq_append] at hconcat
      subst hconcat
      have hshorter : front ≠ front ++ [c] := by
        intro heq
        have hlength := congrArg List.length heq
        rw [List.length_append, List.length_singleton] at hlength
        omega
      have hopen := hfirst.shortest front (List.prefix_append front [c]) hshorter
      have hstops : StopsAt sequences (front ++ [c]) stop' :=
        ⟨hfirst.found, released_of_stop hproper hopen hfirst.found, hfirst.shortest⟩
      have hsame := (hstops.after_eq hfirst.inside).1
      rw [hstop, Option.some.injEq] at hsame
      subst hsame
      obtain ⟨rest, rfl⟩ := hfirst.inside
      refine ⟨_, List.prefix_append _ rest, hstops, ?_⟩
      rw [(after_append_of_stopped hstops.isStopped rest).1]
      exact pending_of_stop hproper hopen hfirst.found

end Stopped

inductive Call where
  | push (fragment : List Char)
  | finish
deriving DecidableEq, Repr

def Call.run (buffer : Buffer) : Call → List (List Char) × Buffer
  | push fragment => buffer.push fragment
  | finish => (buffer.finish.1.toList, buffer.finish.2)

def serve (buffer : Buffer) : List Call → List (List Char) × Buffer
  | [] => ([], buffer)
  | next :: calls =>
    let (first, buffer) := next.run buffer
    let (rest, buffer) := buffer.serve calls
    (first ++ rest, buffer)

def Call.text : List Call → List Char
  | push fragment :: calls => fragment ++ text calls
  | _ => []

theorem serve_of_isDone {buffer : Buffer} (hdone : buffer.isDone = true) (calls : List Call) :
    buffer.serve calls = ([], buffer) := by
  induction calls with
  | nil => rfl
  | cons next calls ih =>
      have hrun : next.run buffer = ([], buffer) := by
        cases next with
        | push fragment => exact push_of_isDone hdone fragment
        | finish => rw [Call.run, finish_of_isDone hdone]; rfl
      rw [serve, hrun]
      dsimp only
      rw [ih]
      rfl

theorem serve_eq (buffer : Buffer) (calls : List Call) :
    buffer.serve calls =
      if Call.finish ∈ calls then
        ((buffer.push (Call.text calls)).1 ++
            (buffer.push (Call.text calls)).2.finish.1.toList,
          (buffer.push (Call.text calls)).2.finish.2)
      else buffer.push (Call.text calls) := by
  induction calls generalizing buffer with
  | nil => rfl
  | cons next calls ih =>
      cases next with
      | push fragment =>
          rw [serve, Call.run, Call.text, push_append]
          dsimp only
          rw [ih]
          by_cases hfinish : Call.finish ∈ calls
          · simp [hfinish]
          · simp [hfinish]
      | finish =>
          rw [if_pos List.mem_cons_self, serve, Call.run]
          dsimp only
          rw [serve_of_isDone buffer.finish_snd_isDone, List.append_nil]
          rfl

theorem finish_snd_pending {buffer : Buffer}
    (hempty : buffer.isDone = true → buffer.pending = []) : buffer.finish.2.pending = [] := by
  rw [finish]
  split
  · exact hempty ‹_›
  · rfl

/-- What has become of the text that a buffer was fed: it was released or is held back, and
after the end all of it was released; or the buffer stopped at the first character that
completed a sequence, and released what stands in front of that. A buffer that stopped, or
was told that the text has ended, takes and gives nothing any more. -/
structure Conserves (sequences : List Sequence) (calls : List Call)
    (released : List (List Char)) (buffer : Buffer) : Prop where
  going : buffer.stop = none → Call.finish ∉ calls →
    released.flatten ++ buffer.pending = Call.text calls
  ended : buffer.stop = none → Call.finish ∈ calls →
    released.flatten = Call.text calls ∧ buffer.pending = []
  stopped : ∀ stop, buffer.stop = some stop →
    buffer.pending = [] ∧ released.flatten ++ stop <+: Call.text calls ∧
      StopsAt sequences (released.flatten ++ stop) stop
  done : buffer.stop.isSome = true ∨ Call.finish ∈ calls →
    ∀ more, buffer.serve more = ([], buffer)

section Conserves

variable {calls : List Call} (hproper : ∀ sequence ∈ sequences, sequence ≠ .literal [])

include hproper

theorem released_of_stopped {text stop : List Char}
    (hstop : (after sequences text).stop = some stop) :
    (after sequences text).pending = [] ∧ released sequences text ++ stop <+: text ∧
      StopsAt sequences (released sequences text ++ stop) stop := by
  obtain ⟨read, hinside, hstops, hpending⟩ := exists_stopsAt hproper hstop
  rw [(hstops.after_eq hinside).2]
  exact ⟨hpending, hinside, hstops⟩

theorem conserves_push (hfinish : Call.finish ∉ calls) :
    Conserves sequences calls ((Buffer.new sequences).push (Call.text calls)).1
      (after sequences (Call.text calls)) where
  going hopen _ := released_append_pending hproper hopen
  ended _ hended := absurd hended hfinish
  stopped _ hstop := released_of_stopped hproper hstop
  done hdone := by
    intro more
    refine serve_of_isDone ?_ more
    rw [isDone_after]
    exact hdone.resolve_right hfinish

theorem conserves_finish (hfinish : Call.finish ∈ calls) :
    Conserves sequences calls
      (((Buffer.new sequences).push (Call.text calls)).1 ++
        (after sequences (Call.text calls)).finish.1.toList)
      (after sequences (Call.text calls)).finish.2 where
  going _ hgoing := absurd hfinish hgoing
  ended hopen _ := by
    rw [finish_snd_stop] at hopen
    have hdone : (after sequences (Call.text calls)).isDone = false := by
      rw [isDone_after, hopen]
      rfl
    rw [List.flatten_append, finish_flatten, hdone, if_neg Bool.false_ne_true, ← released]
    refine ⟨released_append_pending hproper hopen, finish_snd_pending fun hstopped => ?_⟩
    exact absurd (hdone.symm.trans hstopped) Bool.false_ne_true
  stopped stop hstop := by
    rw [finish_snd_stop] at hstop
    have hdone : (after sequences (Call.text calls)).isDone = true := by
      rw [isDone_after, hstop]
      rfl
    rw [finish_of_isDone hdone, Option.toList_none, List.append_nil]
    exact released_of_stopped hproper hstop
  done _ := serve_of_isDone (finish_snd_isDone _)

end Conserves

/-- However a text is fed to a buffer, literal, pattern or malformed as the sequences may be,
nothing is lost and nothing is there twice. -/
theorem text_is_conserved (engine : Pattern.Engine) (texts : List (List Char)) (calls : List Call) :
    let served := (Buffer.new (Stop.sequences engine texts)).serve calls
    Conserves (Stop.sequences engine texts) calls served.1 served.2 ∧
      ∀ held, CutsInside (Stop.sequences engine texts) held := by
  have hproper := sequences_proper engine texts
  refine ⟨?_, cutsInside _⟩
  rw [serve_eq]
  split
  · exact conserves_finish hproper ‹_›
  · exact conserves_push hproper ‹_›

end Buffer

end Stop

end Redraft
