import Mathlib.Data.List.Infix
import Redraft.Proofs.Pattern.Engine
import Redraft.Proofs.Stop.Stream

/-!
Whether a stream stops where its whole text would. A buffer does not know the character in
front of what it holds back, so a condition that looks back may be decided there as at the
start of a text. Apart from that nothing is lost: a stream agrees with its text exactly if
no place at which text was released is seen in another light.
-/

namespace Redraft.Stop

open Pattern

variable {sequences : List Sequence} {text read : List Char}

def wholeOf? (sequences : List Sequence) (text : List Char) : Option (List Char) :=
  match classify sequences text with
  | .whole stop => some stop
  | _ => none

theorem wholeOf?_eq (hproper : ∀ sequence ∈ sequences, sequence ≠ .literal [])
    (text : List Char) : wholeOf? sequences text = firstWhole sequences none text := by
  rw [wholeOf?, classify]
  cases text with
  | nil =>
      cases hfound : firstWhole sequences none [] with
      | none => rfl
      | some stop =>
          obtain ⟨sequence, -, hstop⟩ := List.exists_of_findSome?_eq_some hfound
          cases hstop
  | cons c text =>
      rw [if_neg (by simp), firstWhole_eq hproper]
      cases firstWhole sequences none (c :: text) with
      | none =>
          dsimp only
          split
          · rename_i hwhole
            split at hwhole <;> cases hwhole
          · rfl
      | some stop => rfl

namespace Buffer

def feed (buffer : Buffer) : (fragments : List (List Char)) → List (List Char) × Buffer
  | [] => ([], buffer)
  | fragment :: fragments =>
    let (first, buffer) := buffer.push fragment
    let (rest, buffer) := buffer.feed fragments
    (first ++ rest, buffer)

theorem feed_eq (buffer : Buffer) (fragments : List (List Char)) :
    buffer.feed fragments = buffer.push fragments.flatten := by
  induction fragments generalizing buffer with
  | nil => rfl
  | cons fragment fragments ih =>
      rw [feed, List.flatten_cons, push_append, ← ih]

end Buffer

open Buffer

/-- Streaming agrees with classifying the text as a whole. If some beginning of the text is
whole, the buffer stops behind the first such, gives its sequence and has released what
stands in front of that; if none is, it releases the whole text. -/
structure Agrees (sequences : List Sequence) (fragments : List (List Char)) : Prop where
  stops : ∀ read stop, First (wholeOf? sequences) fragments.flatten read stop →
    ((Buffer.new sequences).feed fragments).2.stop = some stop ∧
      ((Buffer.new sequences).feed fragments).1.flatten ++ stop = read ∧
        ∀ consumed, consumed <+: fragments.flatten →
          (((Buffer.new sequences).push consumed).2.isStopped = true ↔ read <+: consumed)
  goesOn : (∀ read, read <+: fragments.flatten → wholeOf? sequences read = none) →
    ((Buffer.new sequences).feed fragments).2.stop = none ∧
      ((Buffer.new sequences).feed fragments).1.flatten ++
        (((Buffer.new sequences).feed fragments).2.finish.1).getD [] = fragments.flatten

/-- Nowhere does it matter that the buffer has forgotten the character in front: up to the
first stop, what is read behind a place of release is found to be the same with nothing in
front as with the character released last. -/
def Sighted (sequences : List Sequence) (text : List Char) : Prop :=
  ∀ read more, read ++ more <+: text → more ≠ [] → (after sequences read).stop = none →
    (∀ shorter, shorter <+: read ++ more → shorter ≠ read ++ more →
      wholeOf? sequences shorter = none) →
    firstWhole sequences none ((after sequences read).pending ++ more) =
      firstWhole sequences (released sequences read).getLast?
        ((after sequences read).pending ++ more)

theorem firstWhole_pending_snoc (hproper : ∀ sequence ∈ sequences, sequence ≠ .literal [])
    {c : Char} (hopen : (after sequences (read ++ [c])).stop = none) (more : List Char) :
    (after sequences (read ++ [c])).pending = (after sequences read).pending ++ [c] ∨
      firstWhole sequences none ((after sequences read).pending ++ c :: more) =
        firstWhole sequences (released sequences (read ++ [c])).getLast?
          ((after sequences (read ++ [c])).pending ++ more) := by
  obtain ⟨hpending, hreleased⟩ := pending_snoc hproper hopen
  have hdead := fun sequence (hmem : sequence ∈ sequences) =>
    deadAlong_letGo hmem ((after sequences read).pending ++ [c])
  have hheld : (after sequences read).pending ++ c :: more =
      ((after sequences read).pending ++ [c]) ++ more := by simp
  rw [hpending, hreleased, hheld]
  generalize (after sequences read).pending ++ [c] = held at hdead
  generalize letGo sequences held = n at hdead
  cases hfront : held.take n with
  | nil =>
      left
      conv =>
        rhs
        rw [← List.take_append_drop n held, hfront, List.nil_append]
  | cons first front =>
      right
      have hparts : held ++ more = held.take n ++ (held.drop n ++ more) := by
        rw [← List.append_assoc, List.take_append_drop]
      rw [hparts, firstWhole_of_deadAlong fun sequence hmem => (hdead sequence hmem).append more,
        Option.or_none, List.getLast?_append, hfront, List.getLast?_cons]
      rfl

theorem Sighted.firstWhole_eq (hproper : ∀ sequence ∈ sequences, sequence ≠ .literal [])
    (sighted : Sighted sequences text) {more : List Char} (hmore : more ≠ [])
    (hinside : read ++ more <+: text) (hopen : (after sequences read).stop = none)
    (hshorter : ∀ shorter, shorter <+: read ++ more → shorter ≠ read ++ more →
      wholeOf? sequences shorter = none) :
    firstWhole sequences none ((after sequences read).pending ++ more) =
      firstWhole sequences none (read ++ more) := by
  induction read using List.reverseRecOn generalizing more with
  | nil => rfl
  | append_singleton read c ih =>
      rw [List.append_assoc, List.singleton_append] at hinside hshorter ⊢
      rw [← ih (List.cons_ne_nil c more) hinside (open_of_append hopen) hshorter]
      rcases firstWhole_pending_snoc hproper hopen more with hkept | hreleased
      · rw [hkept, List.append_assoc, List.singleton_append]
      · rw [hreleased]
        apply sighted (read ++ [c]) more _ hmore hopen
        · rwa [List.append_assoc, List.singleton_append]
        · rwa [List.append_assoc, List.singleton_append]

theorem firstWhole_released (hproper : ∀ sequence ∈ sequences, sequence ≠ .literal [])
    {middle : List Char} {c : Char} {found : Option (List Char)}
    (hopen : (after sequences (read ++ middle)).stop = none)
    (hbuffer : firstWhole sequences none ((after sequences (read ++ middle)).pending ++ [c]) =
      found)
    (htext : firstWhole sequences none (read ++ middle ++ [c]) = found) :
    firstWhole sequences (released sequences read).getLast?
      ((after sequences read).pending ++ (middle ++ [c])) = found := by
  have hparts := released_append_pending hproper (open_of_append hopen)
  have hwhole : firstWhole sequences none
      (released sequences read ++ ((after sequences read).pending ++ (middle ++ [c]))) =
        found := by
    rw [← List.append_assoc, hparts, ← List.append_assoc, htext]
  have hfits : ∀ stop, found = some stop →
      stop.length ≤ ((after sequences read).pending ++ (middle ++ [c])).length := by
    intro stop hstop
    rw [hstop] at hbuffer
    have hlength := (suffix_of_firstWhole hbuffer).length_le
    have hmore : (released sequences read).length ≤
        (released sequences (read ++ middle)).length := length_released_le read middle
    have hparts' := congrArg List.length (released_append_pending hproper hopen)
    have hparts := congrArg List.length hparts
    simp only [List.length_append, List.length_singleton] at *
    omega
  have hlast := firstWhole_drop hwhole hfits
  rwa [Option.or_none] at hlast

theorem firstWhole_of_verdict (hproper : ∀ sequence ∈ sequences, sequence ≠ .literal [])
    {middle : List Char} {c : Char} {found : Option (List Char)}
    (hopen : (after sequences (read ++ middle)).stop = none)
    (hbuffer : firstWhole sequences none ((after sequences (read ++ middle)).pending ++ [c]) =
      found)
    (htext : firstWhole sequences none (read ++ middle ++ [c]) = found) :
    firstWhole sequences none ((after sequences read).pending ++ (middle ++ [c])) = found := by
  induction middle generalizing read with
  | nil =>
      rw [List.append_nil] at hbuffer
      exact hbuffer
  | cons d middle ih =>
      have hsplit : read ++ d :: middle = read ++ [d] ++ middle := by simp
      rw [hsplit] at hopen hbuffer htext
      rw [List.cons_append]
      rcases firstWhole_pending_snoc hproper (open_of_append hopen) (middle ++ [c]) with
        hkept | hreleased
      · have hrest := ih hopen hbuffer htext
        rwa [hkept, List.append_assoc, List.singleton_append] at hrest
      · rw [hreleased]
        exact firstWhole_released hproper hopen hbuffer htext

theorem Agrees.stop_eq {fragments : List (List Char)} (agrees : Agrees sequences fragments)
    (hinside : read <+: fragments.flatten)
    (hshorter : ∀ shorter, shorter <+: read → shorter ≠ read →
      wholeOf? sequences shorter = none) :
    (after sequences read).stop = wholeOf? sequences read := by
  have hstops := agrees.stops
  have hgoesOn := agrees.goesOn
  rw [feed_eq] at hstops hgoesOn
  cases hfound : wholeOf? sequences read with
  | some stop =>
      obtain ⟨hstop, -, hconsumed⟩ := hstops read stop ⟨hinside, hfound, hshorter⟩
      have hstopped := (hconsumed read hinside).2 List.prefix_rfl
      obtain ⟨rest, hrest⟩ := hinside
      rw [← hrest] at hstop
      rw [← (after_append_of_stopped hstopped rest).1]
      exact hstop
  | none =>
      rcases exists_first_or_none (wholeOf? sequences) fragments.flatten with
        hnone | ⟨read', stop, hfirst⟩
      · obtain ⟨rest, hrest⟩ := hinside
        have hopen := (hgoesOn hnone).1
        rw [← hrest] at hopen
        exact open_of_append hopen
      · obtain ⟨-, -, hconsumed⟩ := hstops read' stop hfirst
        rw [← Option.not_isSome_iff_eq_none]
        intro hstopped
        have hstarts := (hconsumed read hinside).1 hstopped
        have hcontra := hfirst.found
        by_cases heq : read' = read
        · rw [heq, hfound] at hcontra
          cases hcontra
        · rw [hshorter read' hstarts heq] at hcontra
          cases hcontra

theorem Agrees.sighted (hproper : ∀ sequence ∈ sequences, sequence ≠ .literal [])
    {fragments : List (List Char)} (agrees : Agrees sequences fragments) :
    Sighted sequences fragments.flatten := by
  intro read more hinside hmore _ hshorter
  rcases List.eq_nil_or_concat more with hnil | ⟨middle, c, rfl⟩
  · exact absurd hnil hmore
  · rw [List.concat_eq_append] at hinside hshorter ⊢
    rw [← List.append_assoc] at hinside hshorter
    have hstarts : read ++ middle <+: read ++ middle ++ [c] := List.prefix_append _ _
    have hne : read ++ middle ≠ read ++ middle ++ [c] := by simp
    have hopen : (after sequences (read ++ middle)).stop = none := by
      rw [agrees.stop_eq (hstarts.trans hinside), hshorter _ hstarts hne]
      intro shorter hle _
      apply hshorter shorter (hle.trans hstarts)
      intro heq
      subst heq
      have hlength := hle.length_le
      rw [List.length_append, List.length_singleton] at hlength
      omega
    have hbuffer := (stop_snoc (c := c) hproper hopen).symm.trans
      (agrees.stop_eq hinside hshorter)
    have htext := (wholeOf?_eq hproper (read ++ middle ++ [c])).symm
    rw [firstWhole_of_verdict hproper hopen hbuffer htext,
      firstWhole_released hproper hopen hbuffer htext]

theorem Sighted.agrees (hproper : ∀ sequence ∈ sequences, sequence ≠ .literal [])
    {fragments : List (List Char)} (sighted : Sighted sequences fragments.flatten) :
    Agrees sequences fragments := by
  have htells : Tells sequences (wholeOf? sequences) fragments.flatten := by
    intro read c hinside hopen hnone
    rw [wholeOf?_eq hproper]
    refine sighted.firstWhole_eq hproper (List.cons_ne_nil c []) hinside hopen ?_
    intro shorter hstarts hne
    exact hnone shorter ((List.prefix_concat_iff.1 hstarts).resolve_left hne)
  have hrun := htells.stopsAt_or_open hproper rfl
  constructor
  · intro read stop hfirst
    rw [feed_eq]
    rcases hrun with ⟨hnone, -⟩ | ⟨read', stop', hfirst', hstops⟩
    · exact absurd hnone hfirst.not_none
    · obtain ⟨rfl, rfl⟩ := hfirst.unique hfirst'
      obtain ⟨hstop, hemitted⟩ := hstops.after_eq hfirst.inside
      exact ⟨hstop, hemitted, fun _ hconsumed => hstops.isSome_iff hfirst.inside hconsumed⟩
  · intro hnone
    rw [feed_eq]
    rcases hrun with ⟨-, hopen⟩ | ⟨read, stop, hfirst, -⟩
    · have hparts := released_append_pending hproper hopen
      have hdone : (after sequences fragments.flatten).isDone = false := by
        rw [isDone_after, hopen]
        rfl
      exact ⟨hopen, (congrArg (released sequences fragments.flatten ++ ·)
        (finish_getD hdone)).trans hparts⟩
    · exact absurd hnone hfirst.not_none

/-- What stands in front of the sequence plays no part in it. -/
def Sequence.LooksAhead (sequence : Sequence) : Prop :=
  ∀ before text, sequence.reach before text = sequence.reach none text

theorem Sequence.LooksAhead.wholeAfter?_eq {sequence : Sequence} (h : sequence.LooksAhead)
    (before before' : Option Char) (text : List Char) :
    sequence.wholeAfter? before text = sequence.wholeAfter? before' text := by
  cases text with
  | nil => rfl
  | cons c text => rw [Sequence.wholeAfter?, Sequence.wholeAfter?, h before, h before']

theorem firstWhole_of_looksAhead (h : ∀ sequence ∈ sequences, sequence.LooksAhead)
    (before before' : Option Char) (text : List Char) :
    firstWhole sequences before text = firstWhole sequences before' text := by
  induction sequences with
  | nil => rfl
  | cons sequence sequences ih =>
      rw [firstWhole, firstWhole, List.findSome?_cons, List.findSome?_cons,
        (h sequence List.mem_cons_self).wholeAfter?_eq before before']
      split
      · rfl
      · exact ih fun other hother => h other (List.mem_cons_of_mem _ hother)

theorem sighted_of_looksAhead (h : ∀ sequence ∈ sequences, sequence.LooksAhead)
    (text : List Char) : Sighted sequences text := by
  intro read more _ _ _ _
  exact firstWhole_of_looksAhead h _ _ _

/-- A stream agrees with its text exactly if the buffer sees enough of it, and it always does
if no sequence looks back. -/
theorem stream_agrees_iff (engine : Pattern.Engine) (texts fragments : List (List Char)) :
    (Agrees (Stop.sequences engine texts) fragments ↔
        Sighted (Stop.sequences engine texts) fragments.flatten) ∧
      ((∀ sequence ∈ Stop.sequences engine texts, sequence.LooksAhead) →
        Agrees (Stop.sequences engine texts) fragments) := by
  have hproper := sequences_proper engine texts
  refine ⟨⟨fun agrees => agrees.sighted hproper, fun sighted => sighted.agrees hproper⟩, ?_⟩
  intro hahead
  exact (sighted_of_looksAhead hahead _).agrees hproper

theorem Sequence.looksAhead_of_ofText? {text : List Char} {sequence : Sequence}
    (hof : Sequence.ofText? Pattern.engine text = some sequence)
    (hprograms : ∀ source ∈ Sequence.patternSource? text,
      ∀ program ∈ Pattern.Program.ofText? source, program.LooksAhead) :
    sequence.LooksAhead := by
  intro before rest
  unfold Sequence.ofText? at hof
  split at hof
  · cases hof
  · rename_i source _ hsource
    cases hof
    cases hprogram : Pattern.Program.ofText? source with
    | none => rw [Pattern.engine, hprogram]; rfl
    | some program =>
        rw [Pattern.engine, hprogram]
        exact (hprograms source hsource program hprogram).reachText_eq before none rest
  · cases hof
    rfl

/-- A literal and a pattern that ends with its text, `r/[0-9]+$/`. -/
theorem stream_agrees_looking_ahead :
    let texts := ["END".toList, "r/[0-9]+$/".toList]
    (∀ sequence ∈ Stop.sequences Pattern.engine texts, sequence.LooksAhead) ∧
      Agrees (Stop.sequences Pattern.engine texts) ["aE".toList, "N7".toList] := by
  intro texts
  have hprograms : ∀ text ∈ texts, ∀ source ∈ Sequence.patternSource? text,
      ∀ program ∈ Pattern.Program.ofText? source, program.LooksAhead := by
    decide +kernel
  have hahead : ∀ sequence ∈ Stop.sequences Pattern.engine texts, sequence.LooksAhead := by
    intro sequence hmem
    obtain ⟨text, htext, hof⟩ := List.mem_filterMap.1 hmem
    exact Sequence.looksAhead_of_ofText? hof (hprograms text htext)
  exact ⟨hahead, (stream_agrees_iff _ _ _).2 hahead⟩

/-- The pattern `r/^fin/` is found in the middle of a text: once what stands in front is
released, the buffer takes what follows for the start. -/
theorem start_anchor_disagrees :
    ¬ Agrees (Stop.sequences Pattern.engine ["r/^fin/".toList]) ["a fin".toList] := by
  intro agrees
  have hnone : ∀ read ∈ "a fin".toList.inits,
      wholeOf? (Stop.sequences Pattern.engine ["r/^fin/".toList]) read = none := by
    decide +kernel
  have hopen := (agrees.goesOn fun read hread => hnone read ((List.mem_inits _ _).2 hread)).1
  have hstopped : ((Buffer.new (Stop.sequences Pattern.engine ["r/^fin/".toList])).feed
      ["a fin".toList]).2.stop = some "fin".toList := by
    decide +kernel
  rw [hstopped] at hopen
  cases hopen

end Redraft.Stop
