import Mathlib.Data.List.Induction
import Redraft.Proofs.Stop.Sequence
import Redraft.Stop.Buffer

/-!
What a buffer has released and what it holds back make up the text read so far. It stops
when the text held back, taken by itself, ends with a sequence; until then every place
released was dead when it was let go.
-/

namespace Redraft.Stop

def firstWhole (sequences : List Sequence) (before : Option Char) (text : List Char) :
    Option (List Char) :=
  sequences.findSome? (·.wholeAfter? before text)

theorem sequences_proper (engine : Pattern.Engine) (texts : List (List Char)) :
    ∀ sequence ∈ sequences engine texts, sequence ≠ .literal [] := by
  intro sequence hmem
  obtain ⟨text, -, hof⟩ := List.mem_filterMap.1 hmem
  intro heq
  subst heq
  unfold Sequence.ofText? at hof
  split at hof
  · cases hof
  · cases hof
  · rename_i hne hsource
    cases hof
    exact hne rfl

variable {sequences : List Sequence} {before : Option Char}

theorem firstWhole_eq (hproper : ∀ sequence ∈ sequences, sequence ≠ .literal [])
    (text : List Char) :
    sequences.findSome? (·.whole? text) = firstWhole sequences none text := by
  induction sequences with
  | nil => rfl
  | cons sequence sequences ih =>
      rw [firstWhole, List.findSome?_cons, List.findSome?_cons,
        Sequence.whole?_eq (hproper sequence List.mem_cons_self),
        ih fun other hother => hproper other (List.mem_cons_of_mem _ hother)]
      rfl

theorem firstWhole_of_deadAlong {front rest : List Char}
    (h : ∀ sequence ∈ sequences, sequence.DeadAlong before front rest) :
    firstWhole sequences before (front ++ rest) =
      firstWhole sequences (front.getLast?.or before) rest := by
  induction sequences with
  | nil => rfl
  | cons sequence sequences ih =>
      rw [firstWhole, firstWhole, List.findSome?_cons, List.findSome?_cons,
        Sequence.wholeAfter?_of_deadAlong (h sequence List.mem_cons_self)]
      split
      · rfl
      · exact ih fun other hother => h other (List.mem_cons_of_mem _ hother)

theorem firstWhole_drop {front rest : List Char} {found : Option (List Char)}
    (h : firstWhole sequences before (front ++ rest) = found)
    (hlength : ∀ stop, found = some stop → stop.length ≤ rest.length) :
    firstWhole sequences (front.getLast?.or before) rest = found := by
  induction sequences with
  | nil => exact h
  | cons sequence sequences ih =>
      rw [firstWhole, List.findSome?_cons] at h ⊢
      have hdrop := sequence.wholeAfter?_drop before front rest
      cases hfirst : sequence.wholeAfter? before (front ++ rest) with
      | none =>
          rw [hfirst] at h
          rw [hdrop.1 hfirst]
          exact ih h
      | some stop =>
          rw [hfirst] at h
          rw [hdrop.2 stop (hlength stop h.symm) hfirst]
          exact h

theorem suffix_of_firstWhole {text stop : List Char}
    (h : firstWhole sequences before text = some stop) : stop <:+ text := by
  obtain ⟨sequence, -, hstop⟩ := List.exists_of_findSome?_eq_some h
  exact Sequence.suffix_of_wholeAfter? hstop

theorem earlier_eq_some {a b : Option Nat} {n : Nat} (h : earlier a b = some n) :
    some n = a ∨ some n = b := by
  cases a with
  | none => exact .inr h.symm
  | some first =>
      cases b with
      | none => exact .inl h.symm
      | some second =>
          rcases Nat.le_total first second with hle | hle
          · exact .inl (h.symm.trans (congrArg some (Nat.min_eq_left hle)))
          · exact .inr (h.symm.trans (congrArg some (Nat.min_eq_right hle)))

theorem earlier_le_left (m : Nat) (b : Option Nat) : ∃ n, earlier (some m) b = some n ∧ n ≤ m := by
  cases b with
  | none => exact ⟨m, rfl, Nat.le_refl m⟩
  | some second => exact ⟨min m second, rfl, Nat.min_le_left m second⟩

theorem earlier_le_right (a : Option Nat) (m : Nat) :
    ∃ n, earlier a (some m) = some n ∧ n ≤ m := by
  cases a with
  | none => exact ⟨m, rfl, Nat.le_refl m⟩
  | some first => exact ⟨min first m, rfl, Nat.min_le_right first m⟩

theorem mem_of_earliest {places : List (Option Nat)} {n : Nat}
    (h : earliest places = some n) : some n ∈ places := by
  induction places with
  | nil => cases h
  | cons place places ih =>
      rcases earlier_eq_some h with hplace | hrest
      · exact hplace ▸ List.mem_cons_self
      · exact List.mem_cons_of_mem _ (ih hrest.symm)

theorem exists_earliest_le {places : List (Option Nat)} {m : Nat} (hm : some m ∈ places) :
    ∃ n, earliest places = some n ∧ n ≤ m := by
  induction places with
  | nil => cases hm
  | cons place places ih =>
      change ∃ n, earlier place (earliest places) = some n ∧ n ≤ m
      rcases List.mem_cons.1 hm with hplace | hrest
      · rw [← hplace]
        exact earlier_le_left m (earliest places)
      · obtain ⟨rest, heq, hle⟩ := ih hrest
        obtain ⟨n, hn, hle'⟩ := earlier_le_right place rest
        exact ⟨n, heq ▸ hn, Nat.le_trans hle' hle⟩

theorem any_hold?_isSome (text : List Char) :
    sequences.any (fun sequence => (sequence.hold? text).isSome) =
      (hold? sequences text).isSome := by
  rw [hold?]
  induction sequences with
  | nil => rfl
  | cons sequence sequences ih =>
      rw [List.any_cons, ih, List.map_cons]
      change _ = (earlier _ (earliest _)).isSome
      cases sequence.hold? text <;> cases earliest (sequences.map (·.hold? text)) <;> rfl

/-- How much of a text held back is let go if it is not complete. -/
def letGo (sequences : List Sequence) (text : List Char) : Nat :=
  (hold? sequences text).getD text.length

theorem letGo_le {sequence : Sequence} (hmem : sequence ∈ sequences) {text : List Char}
    {place : Nat} (hplace : sequence.hold? text = some place) :
    letGo sequences text ≤ place := by
  have hplaces : some place ∈ sequences.map (·.hold? text) :=
    List.mem_map.2 ⟨sequence, hmem, hplace⟩
  obtain ⟨n, hn, hle⟩ := exists_earliest_le hplaces
  rw [letGo, hold?, hn]
  exact hle

theorem deadAlong_letGo {sequence : Sequence} (hmem : sequence ∈ sequences)
    (text : List Char) :
    sequence.DeadAlong none (text.take (letGo sequences text))
      (text.drop (letGo sequences text)) := by
  cases hplace : sequence.hold? text with
  | none =>
      rw [Sequence.hold?_eq] at hplace
      have halong := (Sequence.deadAlong_of_holdAfter?_none hplace).take
        (letGo sequences text)
      rwa [List.append_nil] at halong
  | some place =>
      have hle := letGo_le hmem hplace
      rw [Sequence.hold?_eq] at hplace
      obtain ⟨hlength, halong, -⟩ := Sequence.deadAlong_of_holdAfter?_some hplace
      have hdrop : (text.take place).drop (letGo sequences text) ++ text.drop place =
          text.drop (letGo sequences text) := by
        rw [← List.drop_append_of_le_length, List.take_append_drop]
        rw [List.length_take]
        omega
      have halong := halong.take (letGo sequences text)
      rwa [List.take_take, Nat.min_eq_left hle, hdrop] at halong

theorem exists_alive_of_letGo {text : List Char}
    (hkept : text.drop (letGo sequences text) ≠ []) :
    ∃ sequence ∈ sequences, sequence.reach (text.take (letGo sequences text)).getLast?
      (text.drop (letGo sequences text)) ≠ .dead := by
  rw [letGo] at hkept ⊢
  cases hhold : hold? sequences text with
  | none =>
      rw [hhold, Option.getD_none, List.drop_length] at hkept
      exact absurd rfl hkept
  | some n =>
      obtain ⟨sequence, hmem, hplace⟩ := List.mem_map.1 (mem_of_earliest hhold)
      rw [Sequence.hold?_eq] at hplace
      have halive := (Sequence.deadAlong_of_holdAfter?_some hplace).2.2
      rw [Option.or_none] at halive
      exact ⟨sequence, hmem, halive⟩

namespace Buffer

theorem pushChar_of_some {buffer : Buffer} {c : Char} {stop : List Char}
    (hproper : ∀ sequence ∈ buffer.sequences, sequence ≠ .literal [])
    (h : firstWhole buffer.sequences none (buffer.pending ++ [c]) = some stop) :
    buffer.pushChar c =
      ([(buffer.pending ++ [c]).take ((buffer.pending ++ [c]).length - stop.length)],
        { buffer with pending := [], stop := some stop }) := by
  have hclassify : classify buffer.sequences (buffer.pending ++ [c]) = .whole stop := by
    rw [classify, if_neg (by simp), firstWhole_eq hproper, h]
  rw [pushChar, hclassify]

theorem pushChar_of_none {buffer : Buffer} {c : Char}
    (hproper : ∀ sequence ∈ buffer.sequences, sequence ≠ .literal [])
    (h : firstWhole buffer.sequences none (buffer.pending ++ [c]) = none) :
    (buffer.pushChar c).1.flatten =
        (buffer.pending ++ [c]).take (letGo buffer.sequences (buffer.pending ++ [c])) ∧
      (buffer.pushChar c).2 = { buffer with
        pending := (buffer.pending ++ [c]).drop
          (letGo buffer.sequences (buffer.pending ++ [c])) } := by
  rw [← firstWhole_eq hproper] at h
  rw [pushChar, classify, if_neg (by simp), h]
  generalize buffer.pending ++ [c] = held
  dsimp only
  rw [any_hold?_isSome, letGo]
  cases hhold : hold? buffer.sequences held with
  | none => simp
  | some n =>
      by_cases hn : n = 0
      · subst n
        exact ⟨rfl, rfl⟩
      · simp [hn]

variable {read : List Char} {c : Char}

def after (sequences : List Sequence) (read : List Char) : Buffer :=
  ((Buffer.new sequences).push read).2

def released (sequences : List Sequence) (read : List Char) : List Char :=
  ((Buffer.new sequences).push read).1.flatten

theorem sequences_pushChar (buffer : Buffer) (c : Char) :
    (buffer.pushChar c).2.sequences = buffer.sequences := by
  unfold pushChar
  dsimp only
  split
  · rfl
  · split <;> rfl
  · rfl

theorem finished_pushChar (buffer : Buffer) (c : Char) :
    (buffer.pushChar c).2.finished = buffer.finished := by
  unfold pushChar
  dsimp only
  split
  · rfl
  · split <;> rfl
  · rfl

theorem push_keeps (buffer : Buffer) (fragment : List Char) :
    (buffer.push fragment).2.sequences = buffer.sequences ∧
      (buffer.push fragment).2.finished = buffer.finished := by
  induction fragment generalizing buffer with
  | nil => exact ⟨rfl, rfl⟩
  | cons c fragment ih =>
      rw [push_cons]
      split
      · exact ⟨rfl, rfl⟩
      · rw [← sequences_pushChar buffer c, ← finished_pushChar buffer c]
        exact ih _

theorem sequences_after : (after sequences read).sequences = sequences :=
  (push_keeps (Buffer.new sequences) read).1

theorem isDone_after : (after sequences read).isDone = (after sequences read).stop.isSome := by
  rw [isDone, isStopped, after, (push_keeps (Buffer.new sequences) read).2]
  rfl

theorem after_snoc (hopen : (after sequences read).stop = none) :
    after sequences (read ++ [c]) = ((after sequences read).pushChar c).2 := by
  have hdone : (after sequences read).isDone = false := by rw [isDone_after, hopen]; rfl
  rw [after, push_append, ← after, push_cons, hdone]
  rfl

theorem released_snoc (hopen : (after sequences read).stop = none) :
    released sequences (read ++ [c]) =
      released sequences read ++ ((after sequences read).pushChar c).1.flatten := by
  have hdone : (after sequences read).isDone = false := by rw [isDone_after, hopen]; rfl
  rw [released, push_append, ← after, push_cons, hdone, List.flatten_append]
  simp [released]

theorem after_append_of_stopped (hstopped : (after sequences read).stop.isSome = true)
    (more : List Char) :
    after sequences (read ++ more) = after sequences read ∧
      released sequences (read ++ more) = released sequences read := by
  have hdone := isDone_after.trans hstopped
  rw [after, released, push_append, ← after, push_of_isDone hdone, List.append_nil]
  exact ⟨rfl, rfl⟩

theorem length_released_le (read more : List Char) :
    (released sequences read).length ≤ (released sequences (read ++ more)).length := by
  rw [released, released, push_append, List.flatten_append, List.length_append]
  exact Nat.le_add_right _ _

theorem open_of_append {more : List Char}
    (hopen : (after sequences (read ++ more)).stop = none) :
    (after sequences read).stop = none := by
  rw [← Option.not_isSome_iff_eq_none]
  intro hstopped
  rw [(after_append_of_stopped hstopped more).1] at hopen
  rw [hopen] at hstopped
  cases hstopped

/-- The next character stops the buffer exactly if it completes a sequence of the text held
back. -/
theorem stop_snoc (hproper : ∀ sequence ∈ sequences, sequence ≠ .literal [])
    (hopen : (after sequences read).stop = none) :
    (after sequences (read ++ [c])).stop =
      firstWhole sequences none ((after sequences read).pending ++ [c]) := by
  rw [after_snoc hopen]
  have hsequences : (after sequences read).sequences = sequences := sequences_after
  generalize after sequences read = buffer at hopen hsequences
  subst hsequences
  cases hwhole : firstWhole buffer.sequences none (buffer.pending ++ [c]) with
  | none =>
      rw [(pushChar_of_none hproper hwhole).2]
      exact hopen
  | some stop => rw [pushChar_of_some hproper hwhole]

theorem pending_snoc (hproper : ∀ sequence ∈ sequences, sequence ≠ .literal [])
    (hopen : (after sequences (read ++ [c])).stop = none) :
    (after sequences (read ++ [c])).pending =
        ((after sequences read).pending ++ [c]).drop
          (letGo sequences ((after sequences read).pending ++ [c])) ∧
      released sequences (read ++ [c]) = released sequences read ++
        ((after sequences read).pending ++ [c]).take
          (letGo sequences ((after sequences read).pending ++ [c])) := by
  have hbefore := open_of_append hopen
  rw [stop_snoc hproper hbefore] at hopen
  rw [after_snoc hbefore, released_snoc hbefore]
  have hsequences : (after sequences read).sequences = sequences := sequences_after
  generalize after sequences read = buffer at hopen hsequences
  subst hsequences
  obtain ⟨hflatten, hbuffer⟩ := pushChar_of_none hproper hopen
  rw [hflatten, hbuffer]
  exact ⟨rfl, rfl⟩

theorem released_append_pending (hproper : ∀ sequence ∈ sequences, sequence ≠ .literal [])
    (hopen : (after sequences read).stop = none) :
    released sequences read ++ (after sequences read).pending = read := by
  induction read using List.reverseRecOn with
  | nil => rfl
  | append_singleton read c ih =>
      obtain ⟨hpending, hreleased⟩ := pending_snoc hproper hopen
      rw [hpending, hreleased, List.append_assoc, List.take_append_drop, ← List.append_assoc,
        ih (open_of_append hopen)]

theorem released_of_stop (hproper : ∀ sequence ∈ sequences, sequence ≠ .literal [])
    (hopen : (after sequences read).stop = none) {stop : List Char}
    (hstop : (after sequences (read ++ [c])).stop = some stop) :
    released sequences (read ++ [c]) ++ stop = read ++ [c] := by
  rw [stop_snoc hproper hopen] at hstop
  rw [released_snoc hopen]
  have hparts := released_append_pending hproper hopen
  have hsequences : (after sequences read).sequences = sequences := sequences_after
  generalize after sequences read = buffer at hopen hsequences hparts hstop
  subst hsequences
  obtain ⟨kept, hkept⟩ := suffix_of_firstWhole hstop
  have hlength := congrArg List.length hkept
  rw [List.length_append] at hlength
  rw [pushChar_of_some hproper hstop, List.flatten_singleton, ← hkept,
    show (kept ++ stop).length - stop.length = kept.length by simp, List.take_left,
    List.append_assoc, hkept, ← List.append_assoc, hparts]

structure StopsAt (sequences : List Sequence) (read stop : List Char) : Prop where
  stopped : (after sequences read).stop = some stop
  emitted : released sequences read ++ stop = read
  openBefore : ∀ shorter, shorter <+: read → shorter ≠ read →
    (after sequences shorter).stop = none

section StopsAt

variable {text stop : List Char}

theorem StopsAt.isStopped (hstops : StopsAt sequences read stop) :
    (after sequences read).stop.isSome = true := by
  rw [hstops.stopped]
  rfl

theorem StopsAt.after_eq (hstops : StopsAt sequences read stop) (hinside : read <+: text) :
    (after sequences text).stop = some stop ∧
      released sequences text ++ stop = read := by
  obtain ⟨rest, rfl⟩ := hinside
  obtain ⟨hafter, hreleased⟩ := after_append_of_stopped hstops.isStopped rest
  rw [hafter, hreleased]
  exact ⟨hstops.stopped, hstops.emitted⟩

theorem StopsAt.isSome_iff (hstops : StopsAt sequences read stop) (hinside : read <+: text)
    {consumed : List Char} (hconsumed : consumed <+: text) :
    (after sequences consumed).stop.isSome = true ↔ read <+: consumed := by
  constructor
  · intro hstopped
    rcases List.prefix_or_prefix_of_prefix hinside hconsumed with hle | hle
    · exact hle
    · by_contra hnot
      have hne : consumed ≠ read := fun heq => hnot ⟨[], (List.append_nil _).trans heq.symm⟩
      rw [hstops.openBefore consumed hle hne] at hstopped
      cases hstopped
  · intro hle
    rw [(hstops.after_eq hle).1]
    rfl

end StopsAt

end Buffer

structure First (found? : List Char → Option (List Char)) (text read stop : List Char) :
    Prop where
  inside : read <+: text
  found : found? read = some stop
  shortest : ∀ shorter, shorter <+: read → shorter ≠ read → found? shorter = none

theorem First.not_none {found? : List Char → Option (List Char)} {text read stop : List Char}
    (hfirst : First found? text read stop) :
    ¬ ∀ other, other <+: text → found? other = none := by
  intro hnone
  have hfound := hfirst.found
  rw [hnone read hfirst.inside] at hfound
  cases hfound

theorem First.unique {found? : List Char → Option (List Char)}
    {text read read' stop stop' : List Char} (h : First found? text read stop)
    (h' : First found? text read' stop') : read = read' ∧ stop = stop' := by
  have heq : read = read' := by
    by_contra hne
    rcases List.prefix_or_prefix_of_prefix h.inside h'.inside with hle | hle
    · have hnone := h'.shortest read hle hne
      rw [h.found] at hnone
      cases hnone
    · have hnone := h.shortest read' hle (Ne.symm hne)
      rw [h'.found] at hnone
      cases hnone
  subst heq
  exact ⟨rfl, Option.some.inj (h.found.symm.trans h'.found)⟩

theorem exists_first_or_none (found? : List Char → Option (List Char)) (text : List Char) :
    (∀ read, read <+: text → found? read = none) ∨ ∃ read stop, First found? text read stop := by
  induction text using List.reverseRecOn with
  | nil =>
      cases hfound : found? [] with
      | none =>
          refine .inl ?_
          intro read hread
          rw [List.prefix_nil.1 hread, hfound]
      | some stop =>
          refine .inr ⟨[], stop, List.prefix_rfl, hfound, ?_⟩
          intro shorter hstarts hne
          exact absurd (List.prefix_nil.1 hstarts) hne
  | append_singleton text c ih =>
      rcases ih with hnone | ⟨read, stop, hfirst⟩
      · cases hfound : found? (text ++ [c]) with
        | none =>
            refine .inl ?_
            intro read hread
            rcases List.prefix_concat_iff.1 hread with rfl | hinside
            · exact hfound
            · exact hnone read hinside
        | some stop =>
            refine .inr ⟨text ++ [c], stop, List.prefix_rfl, hfound, ?_⟩
            intro shorter hstarts hne
            exact hnone shorter ((List.prefix_concat_iff.1 hstarts).resolve_left hne)
      · exact .inr ⟨read, stop, hfirst.inside.trans (List.prefix_append text [c]),
          hfirst.found, hfirst.shortest⟩

namespace Buffer

/-- What is held back tells at every character what is to be found about all that was read. -/
def Tells (sequences : List Sequence) (found? : List Char → Option (List Char))
    (text : List Char) : Prop :=
  ∀ read c, read ++ [c] <+: text → (after sequences read).stop = none →
    (∀ shorter, shorter <+: read → found? shorter = none) →
    firstWhole sequences none ((after sequences read).pending ++ [c]) = found? (read ++ [c])

section Tells

variable {found? : List Char → Option (List Char)} {text read : List Char} {c : Char}

theorem Tells.stop_snoc (hproper : ∀ sequence ∈ sequences, sequence ≠ .literal [])
    (htells : Tells sequences found? text) (hinside : read ++ [c] <+: text)
    (hopen : (after sequences read).stop = none)
    (hnone : ∀ shorter, shorter <+: read → found? shorter = none) :
    (after sequences (read ++ [c])).stop = found? (read ++ [c]) :=
  (Buffer.stop_snoc hproper hopen).trans (htells read c hinside hopen hnone)

theorem Tells.open_of_none (hproper : ∀ sequence ∈ sequences, sequence ≠ .literal [])
    (htells : Tells sequences found? text) (hinside : read <+: text)
    (hnone : ∀ shorter, shorter <+: read → found? shorter = none) :
    (after sequences read).stop = none := by
  induction read using List.reverseRecOn with
  | nil => rfl
  | append_singleton read c ih =>
      have hgrow : read <+: read ++ [c] := List.prefix_append read [c]
      have hbefore (shorter : List Char) (hstarts : shorter <+: read) :
          found? shorter = none := hnone shorter (hstarts.trans hgrow)
      rw [htells.stop_snoc hproper hinside (ih (hgrow.trans hinside) hbefore) hbefore]
      exact hnone (read ++ [c]) List.prefix_rfl

theorem Tells.stopsAt (hproper : ∀ sequence ∈ sequences, sequence ≠ .literal [])
    (htells : Tells sequences found? text) (hnil : found? [] = none) {stop : List Char}
    (hfirst : First found? text read stop) : StopsAt sequences read stop := by
  rcases List.eq_nil_or_concat read with hempty | ⟨front, c, hconcat⟩
  · have hfound := hfirst.found
    rw [hempty, hnil] at hfound
    cases hfound
  · rw [List.concat_eq_append] at hconcat
    subst hconcat
    have hgrow : front <+: front ++ [c] := List.prefix_append front [c]
    have hnone (shorter : List Char) (hstarts : shorter <+: front) :
        found? shorter = none := by
      apply hfirst.shortest shorter (hstarts.trans hgrow)
      intro heq
      subst heq
      have hlength := hstarts.length_le
      rw [List.length_append, List.length_singleton] at hlength
      omega
    have hopen := htells.open_of_none hproper (hgrow.trans hfirst.inside) hnone
    have hstop := (htells.stop_snoc hproper hfirst.inside hopen hnone).trans hfirst.found
    refine ⟨hstop, released_of_stop hproper hopen hstop, ?_⟩
    intro shorter hstarts hne
    obtain ⟨more, rfl⟩ := (List.prefix_concat_iff.1 hstarts).resolve_left hne
    exact open_of_append hopen

theorem Tells.stopsAt_or_open (hproper : ∀ sequence ∈ sequences, sequence ≠ .literal [])
    (htells : Tells sequences found? text) (hnil : found? [] = none) :
    ((∀ read, read <+: text → found? read = none) ∧ (after sequences text).stop = none) ∨
      ∃ read stop, First found? text read stop ∧ StopsAt sequences read stop := by
  rcases exists_first_or_none found? text with hnone | ⟨read, stop, hfirst⟩
  · exact .inl ⟨hnone, htells.open_of_none hproper List.prefix_rfl hnone⟩
  · exact .inr ⟨read, stop, hfirst, htells.stopsAt hproper hnil hfirst⟩

end Tells

end Buffer

end Redraft.Stop
