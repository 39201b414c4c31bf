import Redraft.Pattern.Engine
import Redraft.Proofs.Stop.Conservation

namespace Redraft

namespace Text

variable {text part other : List Char}

theorem byteLength_le_of_isPrefix (h : part <+: text) : byteLength part ≤ byteLength text := by
  obtain ⟨rest, rfl⟩ := h
  rw [byteLength_append]
  exact Nat.le_add_right _ _

theorem byteLength_le_of_isSuffix (h : part <:+ text) : byteLength part ≤ byteLength text := by
  obtain ⟨front, rfl⟩ := h
  rw [byteLength_append]
  exact Nat.le_add_left _ _

theorem length_lt_of_suffix (hpart : part <:+ text) (hother : other <:+ text)
    (hbytes : byteLength part < byteLength other) : part.length < other.length := by
  apply Nat.lt_of_not_le
  intro hshort
  have hinside := List.suffix_of_suffix_length_le hother hpart hshort
  exact absurd (byteLength_le_of_isSuffix hinside) (Nat.not_le.2 hbytes)

theorem byteOffset_add_le {more stop : List Char} {place : Nat} (hplace : place ≤ text.length)
    (hstop : stop <:+ text ++ more)
    (hbefore : place + stop.length ≤ text.length + more.length) :
    byteOffset text place + byteLength stop ≤ byteLength text + byteLength more := by
  obtain ⟨front, hfront⟩ := hstop
  have hlength := congrArg List.length hfront
  rw [List.length_append, List.length_append] at hlength
  have hinside : text.take place <+: front := by
    refine List.prefix_of_prefix_length_le ?_ (List.prefix_append front stop) ?_
    · rw [hfront]
      exact (List.take_prefix place text).trans (List.prefix_append text more)
    · rw [List.length_take]
      omega
  rw [byteOffset_eq_byteLength_take hplace, ← byteLength_append text, ← hfront,
    byteLength_append]
  exact Nat.add_le_add_right (byteLength_le_of_isPrefix hinside) _

end Text

namespace Stop

namespace Sequence

variable {sequence : Sequence} {before : Option Char} {text stop : List Char}

theorem ne_nil_of_wholeAfter? (h : sequence.wholeAfter? before text = some stop) :
    stop ≠ [] := by
  induction text generalizing before with
  | nil => cases h
  | cons c text ih =>
      rw [wholeAfter?] at h
      split at h
      · cases h
        exact List.cons_ne_nil c text
      · exact ih h

theorem holdAfter?_of_wholeAfter? {more : List Char}
    (hwhole : sequence.wholeAfter? before (text ++ more) = some stop)
    (hlong : more.length < stop.length) :
    ∃ place, sequence.holdAfter? before text = some place ∧ place < text.length ∧
      place + stop.length ≤ text.length + more.length := by
  induction text generalizing before with
  | nil =>
      have hshort := (suffix_of_wholeAfter? hwhole).length_le
      exact absurd hlong (Nat.not_lt.2 hshort)
  | cons c text ih =>
      rw [List.cons_append, wholeAfter?] at hwhole
      rw [holdAfter?]
      by_cases hdead : sequence.reach before (c :: text) = .dead
      · have hdeadMore := reach_append_of_dead hdead more
        rw [List.cons_append] at hdeadMore
        rw [hdeadMore, if_neg (by decide)] at hwhole
        obtain ⟨place, hplace, hinside, hbefore⟩ := ih hwhole
        rw [if_pos hdead, hplace]
        refine ⟨place + 1, rfl, Nat.succ_lt_succ hinside, ?_⟩
        rw [List.length_cons]
        omega
      · -- The text is held back from here on, and the stop begins here or further right.
        rw [if_neg hdead]
        refine ⟨0, rfl, Nat.succ_pos _, ?_⟩
        have hinside : stop <:+ c :: (text ++ more) := by
          split at hwhole
          · cases hwhole
            exact List.suffix_rfl
          · exact (suffix_of_wholeAfter? hwhole).trans (List.suffix_cons c _)
        have hlength := hinside.length_le
        rw [List.length_cons, List.length_append] at hlength
        rw [List.length_cons]
        omega

end Sequence

section Several

variable {sequences : List Sequence} {text : List Char}

theorem classify_eq_whole_iff (hproper : ∀ sequence ∈ sequences, sequence ≠ .literal [])
    (hsome : text ≠ []) {stop : List Char} :
    classify sequences text = .whole stop ↔ firstWhole sequences none text = some stop := by
  rw [classify, if_neg (mt List.isEmpty_iff.1 hsome), firstWhole_eq hproper]
  cases firstWhole sequences none text with
  | none =>
      dsimp only
      split <;> simp
  | some found => simp

/-- The earliest place that is not dead comes no later than any stop that begins in the text. -/
theorem hold?_of_firstWhole {more stop : List Char}
    (hwhole : firstWhole sequences none (text ++ more) = some stop)
    (hlong : more.length < stop.length) :
    ∃ place, hold? sequences text = some place ∧ place < text.length ∧
      place + stop.length ≤ text.length + more.length := by
  obtain ⟨sequence, hmem, hstop⟩ := List.exists_of_findSome?_eq_some hwhole
  obtain ⟨place, hplace, hinside, hbefore⟩ := Sequence.holdAfter?_of_wholeAfter? hstop hlong
  rw [← Sequence.hold?_eq] at hplace
  have hplaces : some place ∈ sequences.map (·.hold? text) :=
    List.mem_map.2 ⟨sequence, hmem, hplace⟩
  obtain ⟨first, hfirst, hle⟩ := exists_earliest_le hplaces
  exact ⟨first, hfirst, Nat.lt_of_le_of_lt hle hinside, by omega⟩

theorem ne_nil_of_firstWhole {before : Option Char} {stop : List Char}
    (hwhole : firstWhole sequences before text = some stop) : stop ≠ [] := by
  obtain ⟨sequence, -, hstop⟩ := List.exists_of_findSome?_eq_some hwhole
  exact Sequence.ne_nil_of_wholeAfter? hstop

theorem classify_eq_clear_iff (hproper : ∀ sequence ∈ sequences, sequence ≠ .literal [])
    (hsome : text ≠ []) :
    classify sequences text = .clear ↔ hold? sequences text = none := by
  rw [classify, if_neg (mt List.isEmpty_iff.1 hsome), firstWhole_eq hproper, any_hold?_isSome]
  cases hwhole : firstWhole sequences none text with
  | none => cases hold? sequences text <;> simp
  | some stop =>
      rw [← List.append_nil text] at hwhole
      obtain ⟨place, hplace, -⟩ := hold?_of_firstWhole hwhole
        (List.length_pos_iff.2 (ne_nil_of_firstWhole hwhole))
      simp [hplace]

end Several

end Stop

end Redraft
