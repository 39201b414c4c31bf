import Redraft.Pattern.Automaton

namespace Redraft.Pattern.Automaton

variable {automaton : Automaton}

theorem canReachMatch_iff {state : automaton.State} :
    automaton.canReachMatch state = true ↔
      ∃ byte, automaton.isLost (automaton.next state byte) = false := by
  simp only [canReachMatch, List.any_eq_true, List.mem_range, Bool.not_eq_true']
  constructor
  · rintro ⟨byte, -, hgoes⟩
    exact ⟨.ofNat byte, hgoes⟩
  · rintro ⟨byte, hgoes⟩
    exact ⟨byte.toNat, byte.toNat_lt, by rwa [UInt8.ofNat_toNat]⟩

theorem reachFrom_nil (state : automaton.State) :
    automaton.reachFrom state [] =
      if automaton.isMatch (automaton.atEnd state) then .whole
      else if automaton.canReachMatch state then .live else .dead := rfl

theorem reachFrom_cons (state : automaton.State) (byte : UInt8) (bytes : List UInt8) :
    automaton.reachFrom state (byte :: bytes) =
      if automaton.isLost (automaton.next state byte) then .dead
      else automaton.reachFrom (automaton.next state byte) bytes := by
  rw [reachFrom, walk]
  by_cases hlost : automaton.isLost (automaton.next state byte) = true
  · rw [if_pos hlost, if_pos hlost]
  · rw [if_neg hlost, if_neg hlost, reachFrom]

theorem isLost_of_reachFrom_nil {state : automaton.State}
    (h : automaton.reachFrom state [] = .dead) (byte : UInt8) :
    automaton.isLost (automaton.next state byte) = true := by
  rw [← Bool.not_eq_false]
  intro hgoes
  rw [reachFrom_nil, canReachMatch_iff.2 ⟨byte, hgoes⟩] at h
  split at h <;> cases h

theorem reachFrom_append_of_dead {state : automaton.State} {bytes : List UInt8}
    (h : automaton.reachFrom state bytes = .dead) (more : List UInt8) :
    automaton.reachFrom state (bytes ++ more) = .dead := by
  induction bytes generalizing state with
  | nil =>
      cases more with
      | nil => exact h
      | cons byte more => rw [List.nil_append, reachFrom_cons, isLost_of_reachFrom_nil h, if_pos rfl]
  | cons byte bytes ih =>
      rw [reachFrom_cons] at h
      rw [List.cons_append, reachFrom_cons]
      split
      · rfl
      · rename_i hgoes
        rw [if_neg hgoes] at h
        exact ih h

theorem reach_append_of_dead {before : Option UInt8} {bytes : List UInt8}
    (h : automaton.reach before bytes = .dead) (more : List UInt8) :
    automaton.reach before (bytes ++ more) = .dead := by
  rw [reach] at h ⊢
  cases hstart : automaton.start? before with
  | none => rfl
  | some state =>
      rw [hstart] at h
      exact reachFrom_append_of_dead h more

theorem reachFrom_congr (automaton : Automaton)
    (alike : automaton.State → automaton.State → Prop)
    (hnext : ∀ state state', alike state state' →
      ∀ byte, alike (automaton.next state byte) (automaton.next state' byte))
    (hlost : ∀ state state', alike state state' →
      automaton.isLost state = automaton.isLost state')
    (hmatch : ∀ state state', alike state state' →
      automaton.isMatch (automaton.atEnd state) = automaton.isMatch (automaton.atEnd state'))
    {state state' : automaton.State} (h : alike state state') (bytes : List UInt8) :
    automaton.reachFrom state bytes = automaton.reachFrom state' bytes := by
  induction bytes generalizing state state' with
  | nil =>
      have hgoes : automaton.canReachMatch state = automaton.canReachMatch state' := by
        rw [Bool.eq_iff_iff, canReachMatch_iff, canReachMatch_iff]
        simp only [fun byte => hlost _ _ (hnext _ _ h byte)]
      rw [reachFrom_nil, reachFrom_nil, hgoes, hmatch _ _ h]
  | cons byte bytes ih =>
      rw [reachFrom_cons, reachFrom_cons, hlost _ _ (hnext _ _ h byte), ih (hnext _ _ h byte)]

theorem reachText_append_of_dead {before : Option Char} {text : List Char}
    (h : automaton.reachText before text = .dead) (more : List Char) :
    automaton.reachText before (text ++ more) = .dead := by
  rw [reachText, Text.utf8_append]
  exact reach_append_of_dead h _

end Redraft.Pattern.Automaton
