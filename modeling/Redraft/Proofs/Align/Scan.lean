import Mathlib.Order.Bounds.Defs
import Redraft.Proofs.Align.Doubling

namespace Redraft.Align

namespace Occurrence

def scanStep (text pattern : Tokens) (best : Option Occurrence) (p : Nat) : Option Occurrence :=
  let shared := Tokens.agreement (text.drop p) pattern
  if best.elim 0 (·.length) < shared then some ⟨p, shared⟩ else best

/-- The longest occurrence of the pattern's beginning at or after `start`, by looking at every
position in turn. -/
def scan (text pattern : Tokens) (start : Nat) : Option Occurrence :=
  (Tokens.positions start text.length).foldl (scanStep text pattern) none

variable {text pattern : Tokens} {start : Nat}

def LeadsTo (text pattern : Tokens) (start stop : Nat) : Option Occurrence → Prop
  | none => ∀ p, start ≤ p → p < stop → Tokens.agreement (text.drop p) pattern = 0
  | some best =>
      start ≤ best.position ∧ best.position < stop ∧ 0 < best.length ∧
        best.length = Tokens.agreement (text.drop best.position) pattern ∧
        ∀ p, start ≤ p → p < stop →
          Tokens.agreement (text.drop p) pattern < best.length ∨
            Tokens.agreement (text.drop p) pattern = best.length ∧ best.position ≤ p

section Step

variable {stop : Nat} {best : Option Occurrence}

theorem LeadsTo.agreement_le (h : LeadsTo text pattern start stop best) {p : Nat}
    (hfrom : start ≤ p) (hto : p < stop) :
    Tokens.agreement (text.drop p) pattern ≤ best.elim 0 (·.length) := by
  cases best with
  | none => exact Nat.le_of_eq (h p hfrom hto)
  | some best =>
      obtain ⟨-, -, -, -, hall⟩ := h
      have := hall p hfrom hto
      rw [Option.elim_some]
      omega

theorem LeadsTo.of_longer (h : LeadsTo text pattern start stop best) (hstart : start ≤ stop)
    (hlonger : best.elim 0 (·.length) < Tokens.agreement (text.drop stop) pattern) :
    LeadsTo text pattern start (stop + 1)
      (some ⟨stop, Tokens.agreement (text.drop stop) pattern⟩) := by
  refine ⟨hstart, Nat.lt_succ_self stop, Nat.zero_lt_of_lt hlonger, rfl, ?_⟩
  intro p hfrom hto
  rcases Nat.lt_succ_iff_lt_or_eq.1 hto with hbefore | rfl
  · exact .inl (Nat.lt_of_le_of_lt (h.agreement_le hfrom hbefore) hlonger)
  · exact .inr ⟨rfl, Nat.le_refl _⟩

theorem LeadsTo.of_not_longer (h : LeadsTo text pattern start stop best)
    (hshorter : Tokens.agreement (text.drop stop) pattern ≤ best.elim 0 (·.length)) :
    LeadsTo text pattern start (stop + 1) best := by
  cases best with
  | none =>
      intro p hfrom hto
      rcases Nat.lt_succ_iff_lt_or_eq.1 hto with hbefore | rfl
      · exact h p hfrom hbefore
      · exact Nat.eq_zero_of_le_zero hshorter
  | some best =>
      obtain ⟨hfrom, hto, hpos, hlength, hall⟩ := h
      refine ⟨hfrom, Nat.lt_succ_of_lt hto, hpos, hlength, ?_⟩
      intro p hpfrom hpto
      rcases Nat.lt_succ_iff_lt_or_eq.1 hpto with hbefore | rfl
      · exact hall p hpfrom hbefore
      · -- the new position is the last, so an equal agreement there is no better
        rw [Option.elim_some] at hshorter
        omega

theorem LeadsTo.scanStep (h : LeadsTo text pattern start stop best) (hstart : start ≤ stop) :
    LeadsTo text pattern start (stop + 1) (scanStep text pattern best stop) := by
  rw [Occurrence.scanStep]
  by_cases hlonger : best.elim 0 (·.length) < Tokens.agreement (text.drop stop) pattern
  · rw [if_pos hlonger]
    exact h.of_longer hstart hlonger
  · rw [if_neg hlonger]
    exact h.of_not_longer (Nat.le_of_not_lt hlonger)

end Step

theorem leadsTo_foldl (text pattern : Tokens) (start count : Nat) :
    LeadsTo text pattern start (start + count)
      ((List.range' start count).foldl (scanStep text pattern) none) := by
  induction count with
  | zero =>
      intro p hfrom hto
      omega
  | succ count ih =>
      rw [List.range'_concat, List.foldl_append, Nat.one_mul]
      exact ih.scanStep (Nat.le_add_right _ _)

theorem scan_answers (text pattern : Tokens) (start : Nat) :
    Answers text pattern start (scan text pattern start) := by
  have hscanned := leadsTo_foldl text pattern start (text.length - start)
  have hbehind (p : Nat) (hfrom : start ≤ p) (hp : ¬ p < start + (text.length - start)) :
      Tokens.agreement (text.drop p) pattern = 0 := by
    rw [List.drop_eq_nil_of_le (by omega), Tokens.agreement_nil_left]
  rw [scan, Tokens.positions]
  cases hbest : (List.range' start (text.length - start)).foldl (scanStep text pattern) none with
  | none =>
      rw [hbest] at hscanned
      intro p hfrom
      by_cases hp : p < start + (text.length - start)
      · exact hscanned p hfrom hp
      · exact hbehind p hfrom hp
  | some best =>
      rw [hbest] at hscanned
      obtain ⟨hfrom, -, hpos, hlength, hall⟩ := hscanned
      refine ⟨hfrom, hpos, hlength, ?_⟩
      intro p hpfrom
      by_cases hp : p < start + (text.length - start)
      · exact hall p hpfrom hp
      · exact .inl (by rw [hbehind p hpfrom hp]; exact hpos)

/-- The longest occurrence has the greatest agreement there is, at the least position that
has it. -/
theorem longest_iff {found : Occurrence} :
    found.Longest text pattern start ↔
      0 < found.length ∧
        IsGreatest {n | ∃ p, start ≤ p ∧ Tokens.agreement (text.drop p) pattern = n}
          found.length ∧
        IsLeast {p | start ≤ p ∧ Tokens.agreement (text.drop p) pattern = found.length}
          found.position := by
  constructor
  · intro hlongest
    refine ⟨hlongest.nonempty, ⟨⟨_, hlongest.start_le, hlongest.length_eq.symm⟩, ?_⟩,
      ⟨hlongest.start_le, hlongest.length_eq.symm⟩, ?_⟩
    · rintro _ ⟨p, hfrom, rfl⟩
      have := hlongest.first p hfrom
      omega
    · rintro p ⟨hfrom, hp⟩
      have := hlongest.first p hfrom
      omega
  · rintro ⟨hpos, ⟨-, hgreatest⟩, ⟨hstart, hlength⟩, hleast⟩
    refine ⟨hstart, hpos, hlength.symm, ?_⟩
    intro p hfrom
    rcases Nat.lt_or_eq_of_le (hgreatest ⟨p, hfrom, rfl⟩) with hlt | heq
    · exact .inl hlt
    · exact .inr ⟨heq, hleast ⟨hfrom, heq⟩⟩

theorem Answers.eq_none_iff {answer : Option Occurrence}
    (h : Answers text pattern start answer) :
    answer = none ↔ ∀ p, start ≤ p → Tokens.agreement (text.drop p) pattern = 0 := by
  constructor
  · rintro rfl
    exact h
  · intro hnothing
    exact h.unique (b := none) hnothing

theorem Answers.eq_some_iff {answer : Option Occurrence}
    (h : Answers text pattern start answer) {found : Occurrence} :
    answer = some found ↔ found.Longest text pattern start := by
  constructor
  · rintro rfl
    exact h
  · intro hlongest
    exact h.unique (b := some found) hlongest

end Occurrence

/-- For every text, pattern and start the search finds what a scan finds: nothing if no
position from the start on shares a token with the pattern, otherwise the greatest agreement
there is and the least position that has it. -/
theorem search_agrees_with_scan {sort : KeySort} (hsort : sort.Lawful) (text pattern : Tokens)
    (start : Nat) :
    let answer := (SuffixArray.buildWith sort text).longestOccurrenceFrom pattern start
    answer = Occurrence.scan text pattern start ∧
      (answer = none ↔ ∀ p, start ≤ p → Tokens.agreement (text.drop p) pattern = 0) ∧
      ∀ found, answer = some found ↔
        0 < found.length ∧
          IsGreatest {n | ∃ p, start ≤ p ∧ Tokens.agreement (text.drop p) pattern = n}
            found.length ∧
          IsLeast {p | start ≤ p ∧ Tokens.agreement (text.drop p) pattern = found.length}
            found.position := by
  intro answer
  have hanswers : Occurrence.Answers text pattern start answer :=
    SuffixArray.longestOccurrenceFrom_answers (SuffixArray.buildWith_ordered hsort text)
      pattern start
  refine ⟨hanswers.unique (Occurrence.scan_answers text pattern start), hanswers.eq_none_iff, ?_⟩
  intro found
  rw [hanswers.eq_some_iff, Occurrence.longest_iff]

/-- The whole pattern occurs before the start only. From there on two tokens of it occur, and
in a later place one. -/
theorem search_agrees_with_scan_behind_start :
    let text : Tokens := [5, 6, 7, 1, 5, 6, 2, 5, 9]
    let pattern : Tokens := [5, 6, 7]
    let answer := (SuffixArray.buildWith .backwards text).longestOccurrenceFrom pattern 1
    KeySort.backwards.Lawful ∧ answer = some ⟨4, 2⟩ ∧
      answer = Occurrence.scan text pattern 1 ∧
      (answer = none ↔ ∀ p, 1 ≤ p → Tokens.agreement (text.drop p) pattern = 0) ∧
      ∀ found, answer = some found ↔
        0 < found.length ∧
          IsGreatest {n | ∃ p, 1 ≤ p ∧ Tokens.agreement (text.drop p) pattern = n}
            found.length ∧
          IsLeast {p | 1 ≤ p ∧ Tokens.agreement (text.drop p) pattern = found.length}
            found.position := by
  intro text pattern answer
  have hagrees := search_agrees_with_scan KeySort.backwards_lawful text pattern 1
  exact ⟨KeySort.backwards_lawful, hagrees.1.trans (by decide), hagrees⟩

end Redraft.Align
