import Redraft.Pattern.Engine
import Redraft.Proofs.Pattern.Automaton

namespace Redraft.Pattern

def Look.looksAhead : Look → Bool
  | textEnd => true
  | lineEnd => true
  | word .stopHalf _ => true
  | _ => false

/-- No condition of the program depends on what stands in front of a match. -/
structure Program.LooksAhead (program : Program) : Prop where
  asciiOnly : program.asciiOnly = false
  look : ∀ index look next, program.inst index = .look look next → look.looksAhead = true

def Inst.looksAhead : Inst → Bool
  | look condition _ => condition.looksAhead
  | _ => true

theorem Program.looksAhead_iff {program : Program} :
    program.LooksAhead ↔
      program.asciiOnly = false ∧ program.code.all (·.looksAhead) = true := by
  rw [Array.all_eq_true]
  constructor
  · intro hgiven
    obtain ⟨hascii, hlook⟩ := hgiven
    refine ⟨hascii, ?_⟩
    intro index hindex
    cases hinst : program.code[index] with
    | look look next =>
        refine hlook index look next ?_
        rw [inst, Array.getElem?_eq_getElem hindex, Option.getD_some, hinst]
    | _ => rfl
  · intro hgiven
    obtain ⟨hascii, hall⟩ := hgiven
    refine ⟨hascii, ?_⟩
    intro index look next hinst
    rw [inst] at hinst
    by_cases hindex : index < program.code.size
    · have hahead := hall index hindex
      rw [Array.getElem?_eq_getElem hindex, Option.getD_some] at hinst
      rwa [hinst] at hahead
    · rw [Array.getElem?_eq_none (Nat.le_of_not_lt hindex)] at hinst
      cases hinst

instance (program : Program) : Decidable program.LooksAhead :=
  decidable_of_iff _ Program.looksAhead_iff.symm

namespace Program

variable {program : Program}

theorem visit_congr {holds holds' : Look → Bool}
    (h : ∀ index look next, program.inst index = .look look next → holds look = holds' look)
    (fuel index : Nat) (seen : List Nat) :
    program.visit holds fuel index seen = program.visit holds' fuel index seen := by
  induction fuel generalizing index seen with
  | zero => rfl
  | succ fuel ih =>
      rw [visit, visit]
      split
      · rfl
      · split
        · rfl
        · rfl
        · rename_i look next hinst
          rw [h index look next hinst, ih]
        · have hvisit : program.visit holds fuel = program.visit holds' fuel := by
            funext index seen
            exact ih index seen
          rw [hvisit]

theorem reached_congr {holds holds' : Look → Bool}
    (h : ∀ index look next, program.inst index = .look look next → holds look = holds' look)
    (indices : List Nat) : program.reached holds indices = program.reached holds' indices := by
  have hvisit : program.visit holds = program.visit holds' := by
    funext fuel index seen
    exact visit_congr h fuel index seen
  rw [reached, reached, hvisit]

namespace LooksAhead

theorem holds_eq {look : Look} (h : look.looksAhead = true) (before before' after : Option Char) :
    look.holds Front.isWord before after = look.holds Front.isWord before' after := by
  cases look with
  | textEnd => rfl
  | lineEnd => rfl
  | word edge unicode =>
      cases edge with
      | stopHalf => rfl
      | _ => cases h
  | _ => cases h

theorem holdsAfter_eq {look : Look} (h : look.looksAhead = true) (before : Option Char) :
    look.holdsAfter Front.isWord before = false := by
  cases look with
  | textEnd => rfl
  | lineEnd => rfl
  | word edge unicode =>
      cases edge with
      | stopHalf => rfl
      | _ => cases h
  | _ => cases h

theorem enter_threads (h : program.LooksAhead) (before before' : Option Char)
    (indices : List Nat) :
    (Front.enter program before indices).threads =
      (Front.enter program before' indices).threads := by
  rw [Front.enter, Front.enter, reached_congr]
  intro index look next hinst
  rw [holdsAfter_eq (h.look index look next hinst), holdsAfter_eq (h.look index look next hinst)]

theorem settle_eq (h : program.LooksAhead) {front front' : Front}
    (hthreads : front.threads = front'.threads) (next : Option Char) :
    front.settle program next = front'.settle program next := by
  have hawaits : front.awaits program next = front'.awaits program next := by
    funext index
    unfold Front.awaits
    split
    · rename_i look _ hinst
      have hahead := h.look index look _ hinst
      rw [holds_eq hahead front.before front'.before, holdsAfter_eq hahead, holdsAfter_eq hahead]
    · rfl
  rw [Front.settle, Front.settle, hawaits, hthreads, reached_congr]
  intro index look next hinst
  exact holds_eq (h.look index look next hinst) _ _ _

theorem step_eq (h : program.LooksAhead) {front front' : Front}
    (hthreads : front.threads = front'.threads) (c : Char) :
    front.step program c = front'.step program c := by
  rw [Front.step, Front.step, Front.preferred, Front.preferred, h.settle_eq hthreads]

theorem accepts_eq (h : program.LooksAhead) {front front' : Front}
    (hthreads : front.threads = front'.threads) (next : Option Char) :
    front.accepts program next = front'.accepts program next := by
  rw [Front.accepts, Front.accepts, h.settle_eq hthreads]

end LooksAhead

end Program

namespace Running

variable {program : Program} {running running' : Running}

structure Alike (running running' : Running) : Prop where
  threads : running.front.threads = running'.front.threads
  matched : running.matched = running'.matched
  begun : running.begun = running'.begun
  quit : running.quit = running'.quit

theorem Alike.refl (running : Running) : Alike running running := ⟨rfl, rfl, rfl, rfl⟩

theorem Alike.nextByte (halike : Alike running running') (hahead : program.LooksAhead)
    (byte : UInt8) : Alike (program.nextByte running byte) (program.nextByte running' byte) := by
  have hstep (c : Char) := hahead.step_eq halike.threads c
  have haccepts (c : Char) := hahead.accepts_eq halike.threads (some c)
  rw [Program.nextByte, Program.nextByte, halike.begun]
  cases running'.begun with
  | some begun =>
      obtain ⟨number, missing⟩ := begun
      dsimp only
      split
      · rw [hstep]
        exact .refl _
      · exact ⟨halike.threads, halike.matched, rfl, halike.quit⟩
  | none =>
      dsimp only
      split
      · rw [hstep, haccepts]
        exact .refl _
      · exact ⟨halike.threads, rfl, rfl, rfl⟩

theorem Alike.isLost_eq (halike : Alike running running') (hahead : program.LooksAhead) :
    program.automaton.isLost running = program.automaton.isLost running' := by
  have hdead : running.front.isDead = running'.front.isDead := by
    rw [Front.isDead, Front.isDead, halike.threads]
  change (program.isDeadAt running || running.quit) =
    (program.isDeadAt running' || running'.quit)
  rw [Program.isDeadAt, Program.isDeadAt, halike.begun, halike.matched, halike.quit, hdead,
    hahead.settle_eq halike.threads]

theorem Alike.reachFrom_eq (halike : Alike running running') (hahead : program.LooksAhead)
    (bytes : List UInt8) :
    program.automaton.reachFrom running bytes = program.automaton.reachFrom running' bytes :=
  Automaton.reachFrom_congr program.automaton Alike
    (fun _ _ halike byte => halike.nextByte hahead byte)
    (fun _ _ halike => halike.isLost_eq hahead)
    (fun _ _ halike => hahead.accepts_eq halike.threads none) halike bytes

end Running

/-- A program that does not look back gets as far wherever the match begins. -/
theorem Program.LooksAhead.reachText_eq {program : Program} (hahead : program.LooksAhead)
    (before before' : Option Char) (text : List Char) :
    program.automaton.reachText before text = program.automaton.reachText before' text := by
  have hstarts (before : Option UInt8) : program.automaton.reach before (Text.utf8 text) =
      program.automaton.reachFrom { front := .start program none } (Text.utf8 text) := by
    have hstart : program.automaton.start? before =
        some { front := .start program (before.map (Char.ofNat ·.toNat)) } := by
      change program.startAfter? before = _
      rw [startAfter?, hahead.asciiOnly, Bool.false_and]
      rfl
    rw [Automaton.reach, hstart]
    have halike : Running.Alike
        { front := .start program (before.map (Char.ofNat ·.toNat)) }
        { front := .start program none } :=
      ⟨hahead.enter_threads _ _ _, rfl, rfl, rfl⟩
    exact halike.reachFrom_eq hahead _
  rw [Automaton.reachText, Automaton.reachText, hstarts, hstarts]

end Redraft.Pattern
