import Redraft.Proofs.Pattern.Automaton
import Redraft.Stop.Classify

/-!
Stop sequences place by place. Literals and patterns alike are dead, live or whole from each
place of a text on, given the character in front of it. What is released are places at which
every sequence is dead, and those never become whole again.
-/

namespace Redraft.Stop

open Pattern

namespace Sequence

/-- How far the sequence gets from a place on, with the text up to its end. -/
def reach : Sequence → (before : Option Char) → (text : List Char) → Reach
  | literal stop, _, text =>
    if text = stop then .whole else if text.isPrefixOf stop then .live else .dead
  | pattern _ (some compiled), before, text => compiled.automaton.reachText before text
  | pattern _ none, _, _ => .dead

def wholeAfter? (sequence : Sequence) (before : Option Char) :
    (text : List Char) → Option (List Char)
  | [] => none
  | c :: text =>
    if sequence.reach before (c :: text) = .whole then some (c :: text)
    else sequence.wholeAfter? (some c) text

def holdAfter? (sequence : Sequence) (before : Option Char) : (text : List Char) → Option Nat
  | [] => none
  | c :: text =>
    if sequence.reach before (c :: text) = .dead then
      (sequence.holdAfter? (some c) text).map (· + 1)
    else some 0

/-- The sequence is dead at every place of `front` with `rest` behind it. -/
def DeadAlong (sequence : Sequence) (before : Option Char) :
    (front rest : List Char) → Prop
  | [], _ => True
  | c :: front, rest =>
    sequence.reach before (c :: front ++ rest) = .dead ∧
      sequence.DeadAlong (some c) front rest

variable {sequence : Sequence} {before : Option Char}

theorem getLast?_cons_or (c : Char) (text : List Char) (before : Option Char) :
    (c :: text).getLast?.or before = text.getLast?.or (some c) := by
  rw [List.getLast?_cons]
  cases text.getLast? <;> rfl

theorem reach_append_of_dead {text : List Char} (h : sequence.reach before text = .dead)
    (more : List Char) : sequence.reach before (text ++ more) = .dead := by
  match sequence with
  | literal stop =>
      rw [reach] at h ⊢
      split at h
      · cases h
      · split at h
        · cases h
        · rename_i hne hstarts
          rw [List.isPrefixOf_iff_prefix] at hstarts
          have hnot : ¬ text ++ more <+: stop := fun hmore =>
            hstarts ((List.prefix_append text more).trans hmore)
          rw [if_neg (fun heq => hnot ⟨[], (List.append_nil _).trans heq⟩),
            if_neg (fun hmore => hnot (List.isPrefixOf_iff_prefix.1 hmore))]
  | pattern _ (some _) => exact Automaton.reachText_append_of_dead h more
  | pattern _ none => rfl

theorem DeadAlong.append {front rest : List Char} (h : sequence.DeadAlong before front rest)
    (more : List Char) : sequence.DeadAlong before front (rest ++ more) := by
  induction front generalizing before with
  | nil => trivial
  | cons c front ih =>
      refine ⟨?_, ih h.2⟩
      rw [← List.append_assoc]
      exact reach_append_of_dead h.1 more

theorem wholeAfter?_of_deadAlong {front rest : List Char}
    (h : sequence.DeadAlong before front rest) :
    sequence.wholeAfter? before (front ++ rest) =
      sequence.wholeAfter? (front.getLast?.or before) rest := by
  induction front generalizing before with
  | nil => rfl
  | cons c front ih =>
      have hdead := h.1
      rw [List.cons_append] at hdead ⊢
      rw [wholeAfter?, hdead, if_neg (by decide), ih h.2, getLast?_cons_or]

theorem wholeAfter?_drop (sequence : Sequence) (before : Option Char) (front rest : List Char) :
    (sequence.wholeAfter? before (front ++ rest) = none →
      sequence.wholeAfter? (front.getLast?.or before) rest = none) ∧
    ∀ stop, stop.length ≤ rest.length →
      sequence.wholeAfter? before (front ++ rest) = some stop →
        sequence.wholeAfter? (front.getLast?.or before) rest = some stop := by
  induction front generalizing before with
  | nil => exact ⟨id, fun _ _ => id⟩
  | cons c front ih =>
      rw [getLast?_cons_or, List.cons_append, wholeAfter?]
      split
      · refine ⟨nofun, ?_⟩
        intro stop hlength heq
        cases heq
        rw [List.length_cons, List.length_append] at hlength
        omega
      · exact ih (some c)

theorem suffix_of_wholeAfter? {text stop : List Char}
    (h : sequence.wholeAfter? before text = some stop) : stop <:+ text := by
  induction text generalizing before with
  | nil => cases h
  | cons c text ih =>
      rw [wholeAfter?] at h
      split at h
      · cases h
        exact List.suffix_rfl
      · exact (ih h).trans (List.suffix_cons c text)

theorem wholeAfter?_literal {stop : List Char} (hstop : stop ≠ []) (text : List Char) :
    (literal stop).wholeAfter? before text = if stop.isSuffixOf text then some stop else none := by
  induction text generalizing before with
  | nil =>
      rw [wholeAfter?, if_neg]
      intro hsuffix
      exact hstop (List.suffix_nil.1 (List.isSuffixOf_iff_suffix.1 hsuffix))
  | cons c text ih =>
      rw [wholeAfter?, ih]
      by_cases hwhole : c :: text = stop
      · subst stop
        rw [if_pos (by rw [reach, if_pos rfl]), if_pos]
        exact List.isSuffixOf_iff_suffix.2 List.suffix_rfl
      · have hreach : (literal stop).reach before (c :: text) ≠ .whole := by
          rw [reach, if_neg hwhole]
          split <;> exact Reach.noConfusion
        rw [if_neg hreach]
        have hiff : stop.isSuffixOf (c :: text) = stop.isSuffixOf text := by
          rw [Bool.eq_iff_iff, List.isSuffixOf_iff_suffix, List.isSuffixOf_iff_suffix,
            List.suffix_cons_iff]
          exact or_iff_right (Ne.symm hwhole)
        rw [hiff]

theorem whole?_eq (hproper : sequence ≠ literal []) (text : List Char) :
    sequence.whole? text = sequence.wholeAfter? none text := by
  match sequence with
  | literal stop =>
      rw [wholeAfter?_literal (fun hnil => hproper (by rw [hnil]))]
      rfl
  | pattern source (some compiled) =>
      have hall (before : Option Char) : patternWhole? compiled.automaton before text =
          (pattern source (some compiled)).wholeAfter? before text := by
        induction text generalizing before with
        | nil => rfl
        | cons c text ih => rw [patternWhole?, wholeAfter?, ih, reach]
      exact hall none
  | pattern source none =>
      have hall (before : Option Char) :
          (pattern source none).wholeAfter? before text = none := by
        induction text generalizing before with
        | nil => rfl
        | cons c text ih => rw [wholeAfter?, ih, reach, if_neg (by decide)]
      exact (hall none).symm

theorem hold?_eq (text : List Char) : sequence.hold? text = sequence.holdAfter? none text := by
  match sequence with
  | literal stop =>
      have hall (before : Option Char) :
          literalHold? stop text = (literal stop).holdAfter? before text := by
        induction text generalizing before with
        | nil => rfl
        | cons c text ih =>
            rw [literalHold?, holdAfter?, ih (some c), reach]
            by_cases hwhole : c :: text = stop
            · have hstarts : (c :: text).isPrefixOf stop = true := by
                rw [List.isPrefixOf_iff_prefix]
                exact ⟨[], (List.append_nil _).trans hwhole⟩
              rw [if_pos hwhole, if_pos hstarts]
              rfl
            · rw [if_neg hwhole]
              split
              · rfl
              · rfl
      exact hall none
  | pattern source (some compiled) =>
      have hall (before : Option Char) : patternHold? compiled.automaton before text =
          (pattern source (some compiled)).holdAfter? before text := by
        induction text generalizing before with
        | nil => rfl
        | cons c text ih => rw [patternHold?, holdAfter?, ih, reach]
      exact hall none
  | pattern source none =>
      have hall (before : Option Char) :
          (pattern source none).holdAfter? before text = none := by
        induction text generalizing before with
        | nil => rfl
        | cons c text ih => rw [holdAfter?, ih, reach, if_pos rfl, Option.map_none]
      exact (hall none).symm

theorem deadAlong_of_holdAfter?_none {text : List Char}
    (h : sequence.holdAfter? before text = none) : sequence.DeadAlong before text [] := by
  induction text generalizing before with
  | nil => trivial
  | cons c text ih =>
      rw [holdAfter?] at h
      split at h
      · rename_i hdead
        refine ⟨by rwa [List.append_nil], ih ?_⟩
        simpa using h
      · cases h

theorem deadAlong_of_holdAfter?_some {text : List Char} {n : Nat}
    (h : sequence.holdAfter? before text = some n) :
    n < text.length ∧ sequence.DeadAlong before (text.take n) (text.drop n) ∧
      sequence.reach ((text.take n).getLast?.or before) (text.drop n) ≠ .dead := by
  induction text generalizing before n with
  | nil => cases h
  | cons c text ih =>
      rw [holdAfter?] at h
      split at h
      · rename_i hdead
        obtain ⟨n, hn, rfl⟩ := Option.map_eq_some_iff.1 h
        obtain ⟨hlength, halong, hlive⟩ := ih hn
        rw [List.take_succ_cons, List.drop_succ_cons, getLast?_cons_or]
        refine ⟨Nat.succ_lt_succ hlength, ⟨?_, halong⟩, hlive⟩
        rwa [List.cons_append, List.take_append_drop]
      · rename_i hlive
        cases h
        exact ⟨Nat.succ_pos _, trivial, hlive⟩

theorem DeadAlong.take {front rest : List Char} (n : Nat)
    (h : sequence.DeadAlong before front rest) :
    sequence.DeadAlong before (front.take n) (front.drop n ++ rest) := by
  induction front generalizing before n with
  | nil => cases n <;> trivial
  | cons c front ih =>
      cases n with
      | zero => trivial
      | succ n =>
          rw [List.take_succ_cons, List.drop_succ_cons]
          refine ⟨?_, ih n h.2⟩
          rw [List.cons_append, ← List.append_assoc, List.take_append_drop]
          exact h.1

end Sequence

end Redraft.Stop
