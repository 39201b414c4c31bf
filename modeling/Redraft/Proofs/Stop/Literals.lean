import Mathlib.Data.List.Find
import Redraft.Pattern.Engine
import Redraft.Proofs.Stop.Stream

namespace Redraft.Stop

variable {engine : Pattern.Engine} {texts : List (List Char)} {read : List Char}

/-- The first of the texts that stands at the end. The empty text is no stop sequence. -/
def endsWith? (texts : List (List Char)) (read : List Char) : Option (List Char) :=
  texts.find? fun stop => !stop.isEmpty && stop.isSuffixOf read

def Opens (texts : List (List Char)) (opening : List Char) : Prop :=
  ∃ stop ∈ texts, opening <+: stop ∧ opening ≠ stop

/-- The longest end of what was read that may still become one of the texts. -/
structure LongestOpening (texts : List (List Char)) (read opening : List Char) : Prop where
  suffix : opening <:+ read
  opens : opening = [] ∨ Opens texts opening
  longest : ∀ other, other <:+ read → Opens texts other → other.length ≤ opening.length

theorem ofText?_of_literal {text : List Char} (h : Sequence.patternSource? text = none) :
    Sequence.ofText? engine text = if text.isEmpty then none else some (.literal text) := by
  cases text with
  | nil => rfl
  | cons c text => simp [Sequence.ofText?, h]

theorem firstWhole_literals (h : ∀ text ∈ texts, Sequence.patternSource? text = none)
    (before : Option Char) (read : List Char) :
    firstWhole (sequences engine texts) before read = endsWith? texts read := by
  induction texts with
  | nil => rfl
  | cons text texts ih =>
      have hrest := ih fun other hother => h other (List.mem_cons_of_mem _ hother)
      rw [sequences, List.filterMap_cons, ofText?_of_literal (h text List.mem_cons_self),
        endsWith?, List.find?_cons]
      cases text with
      | nil => exact hrest
      | cons c text =>
          rw [firstWhole] at hrest ⊢
          dsimp only [List.isEmpty_cons]
          rw [if_neg Bool.false_ne_true]
          dsimp only
          rw [List.findSome?_cons, Sequence.wholeAfter?_literal (List.cons_ne_nil c text)]
          cases hsuffix : (c :: text).isSuffixOf read with
          | true => simp
          | false => simpa [sequences, endsWith?] using hrest

theorem mem_sequences_literal (h : ∀ text ∈ texts, Sequence.patternSource? text = none)
    {sequence : Sequence} :
    sequence ∈ sequences engine texts ↔ ∃ text ∈ texts, text ≠ [] ∧ sequence = .literal text := by
  rw [sequences, List.mem_filterMap]
  constructor
  · intro hgiven
    obtain ⟨text, hmem, hof⟩ := hgiven
    rw [ofText?_of_literal (h text hmem)] at hof
    split at hof
    · cases hof
    · rename_i hne
      cases hof
      exact ⟨text, hmem, fun hnil => hne (by rw [hnil]; rfl), rfl⟩
  · intro hgiven
    obtain ⟨text, hmem, hne, rfl⟩ := hgiven
    refine ⟨text, hmem, ?_⟩
    rw [ofText?_of_literal (h text hmem), if_neg (by simpa using hne)]

theorem endsWith?_eq_none :
    endsWith? texts read = none ↔ ∀ stop ∈ texts, stop ≠ [] → ¬ stop <:+ read := by
  simp [endsWith?, List.find?_eq_none]

theorem reach_literal_ne_dead {stop text : List Char} {before : Option Char} :
    (Sequence.literal stop).reach before text ≠ .dead ↔ text <+: stop := by
  rw [Sequence.reach, ← List.isPrefixOf_iff_prefix]
  split
  · rename_i heq
    simp [heq]
  · split <;> simp_all

theorem suffix_of_deadAlong {stop front rest opening : List Char} {before : Option Char}
    (h : (Sequence.literal stop).DeadAlong before front rest)
    (hopening : opening <+: stop) (hsuffix : opening <:+ front ++ rest) : opening <:+ rest := by
  induction front generalizing before with
  | nil => exact hsuffix
  | cons c front ih =>
      rcases List.suffix_cons_iff.1 hsuffix with heq | hbehind
      · rw [heq] at hopening
        exact absurd h.1 (reach_literal_ne_dead.2 hopening)
      · exact ih h.2 hbehind

theorem exists_of_suffix_snoc {opening : List Char} {c : Char} (hne : opening ≠ [])
    (h : opening <:+ read ++ [c]) : ∃ shorter, opening = shorter ++ [c] ∧ shorter <:+ read := by
  obtain ⟨front, hfront⟩ := h
  rcases List.eq_nil_or_concat opening with hnil | ⟨shorter, d, rfl⟩
  · exact absurd hnil hne
  · rw [List.concat_eq_append, ← List.append_assoc] at hfront
    obtain ⟨hread, hlast⟩ := List.append_inj' hfront rfl
    cases hlast
    exact ⟨shorter, List.concat_eq_append, front, hread⟩

theorem Opens.shorter {opening : List Char} {c : Char} (h : opening ++ [c] <+: read)
    (hmem : read ∈ texts) : Opens texts opening := by
  refine ⟨read, hmem, (List.prefix_append opening [c]).trans h, ?_⟩
  intro heq
  subst heq
  have hlength := h.length_le
  rw [List.length_append, List.length_singleton] at hlength
  omega

/-- What a longer text ends with and a literal begins with is also what the longest opening
ends with, once it has grown by the same character. -/
theorem LongestOpening.suffix_snoc {held other stop : List Char} {c : Char}
    (hheld : LongestOpening texts read held) (hstop : stop ∈ texts) (hne : other ≠ [])
    (hstarts : other <+: stop) (hother : other <:+ read ++ [c]) : other <:+ held ++ [c] := by
  obtain ⟨shorter, rfl, hshorter⟩ := exists_of_suffix_snoc hne hother
  have hle := hheld.longest shorter hshorter (Opens.shorter hstarts hstop)
  exact List.suffix_append_self_iff.2
    (List.suffix_of_suffix_length_le hshorter hheld.suffix hle)

theorem opens_letGo (h : ∀ text ∈ texts, Sequence.patternSource? text = none)
    {text : List Char} (hnone : ∀ stop ∈ texts, stop ≠ [] → ¬ stop <:+ text)
    (hkept : text.drop (letGo (sequences engine texts) text) ≠ []) :
    Opens texts (text.drop (letGo (sequences engine texts) text)) := by
  obtain ⟨sequence, hmem, halive⟩ := exists_alive_of_letGo hkept
  obtain ⟨stop, hstop, hne, rfl⟩ := (mem_sequences_literal h).1 hmem
  refine ⟨stop, hstop, reach_literal_ne_dead.1 halive, ?_⟩
  intro heq
  apply hnone stop hstop hne
  rw [← heq]
  exact List.drop_suffix _ text

theorem suffix_letGo (h : ∀ text ∈ texts, Sequence.patternSource? text = none)
    {text other stop : List Char} (hstop : stop ∈ texts) (hne : other ≠ [])
    (hstarts : other <+: stop) (hother : other <:+ text) :
    other <:+ text.drop (letGo (sequences engine texts) text) := by
  have hproper : stop ≠ [] := by
    intro heq
    subst heq
    exact hne (List.prefix_nil.1 hstarts)
  have hmem : .literal stop ∈ sequences engine texts :=
    (mem_sequences_literal h).2 ⟨stop, hstop, hproper, rfl⟩
  apply suffix_of_deadAlong (deadAlong_letGo hmem text) hstarts
  rwa [List.take_append_drop]

namespace Buffer

theorem pending_longestOpening (h : ∀ text ∈ texts, Sequence.patternSource? text = none)
    (hopen : (after (Stop.sequences engine texts) read).stop = none) :
    LongestOpening texts read (after (Stop.sequences engine texts) read).pending := by
  have hproper := sequences_proper engine texts
  induction read using List.reverseRecOn with
  | nil => exact ⟨List.suffix_rfl, .inl rfl, fun _ hother _ => hother.length_le⟩
  | append_singleton read c ih =>
      have hbefore := open_of_append hopen
      have hheld := ih hbefore
      have hnone := (stop_snoc (c := c) hproper hbefore).symm.trans hopen
      rw [firstWhole_literals h, endsWith?_eq_none] at hnone
      rw [(pending_snoc hproper hopen).1]
      refine ⟨?_, ?_, ?_⟩
      · exact (List.drop_suffix _ _).trans (List.suffix_append_self_iff.2 hheld.suffix)
      · exact or_iff_not_imp_left.2 (opens_letGo h hnone)
      · intro other hother hgiven
        obtain ⟨stop, hstop, hstarts, -⟩ := hgiven
        by_cases hempty : other = []
        · rw [hempty]
          exact Nat.zero_le _
        · exact (suffix_letGo h hstop hempty hstarts
            (hheld.suffix_snoc hstop hempty hstarts hother)).length_le

/-- What is held back ends with the same sequence as all that was read. -/
theorem endsWith?_pending (h : ∀ text ∈ texts, Sequence.patternSource? text = none)
    (hopen : (after (Stop.sequences engine texts) read).stop = none) (c : Char) :
    endsWith? texts ((after (Stop.sequences engine texts) read).pending ++ [c]) =
      endsWith? texts (read ++ [c]) := by
  have hheld := pending_longestOpening h hopen
  rw [endsWith?, endsWith?]
  apply List.find?_congr
  intro stop hmem
  by_cases hne : stop = []
  · rw [hne]
    rfl
  · have hends : stop <:+ (after (Stop.sequences engine texts) read).pending ++ [c] ↔
        stop <:+ read ++ [c] :=
      ⟨fun hpending => hpending.trans (List.suffix_append_self_iff.2 hheld.suffix),
        hheld.suffix_snoc hmem hne List.prefix_rfl⟩
    rw [Bool.eq_iff_iff, Bool.and_eq_true, Bool.and_eq_true, List.isSuffixOf_iff_suffix,
      List.isSuffixOf_iff_suffix, hends]

end Buffer

theorem endsWith?_of_absent {text : List Char}
    (h : ∀ stop ∈ texts, stop ≠ [] → ¬ stop <:+: text) (hread : read <+: text) :
    endsWith? texts read = none := by
  rw [endsWith?_eq_none]
  intro stop hmem hne hsuffix
  exact h stop hmem hne (hsuffix.isInfix.trans hread.isInfix)

theorem exists_read_of_occurrence {text stop : List Char} (h : stop <:+: text) :
    ∃ read, read <+: text ∧ stop <:+ read := by
  obtain ⟨front, rest, rfl⟩ := h
  exact ⟨front ++ stop, List.prefix_append _ _, List.suffix_append _ _⟩

/-- A stream over literal stop sequences. If none of them occurs it gives the whole text. If
one does, it gives the text up to the first of those that end soonest. While it goes on,
what it holds back is the longest end of all that was read that may still become a
sequence. -/
theorem literal_stream (h : ∀ stop ∈ texts, Sequence.patternSource? stop = none)
    (source : List (List Char)) :
    ((∀ stop ∈ texts, stop ≠ [] → ¬ stop <:+: source.flatten) →
      (Stream.new (sequences engine texts) source).fragments.1.flatten = source.flatten ∧
        (Stream.new (sequences engine texts) source).fragments.2.state.stop = none) ∧
    ((∃ stop ∈ texts, stop ≠ [] ∧ stop <:+: source.flatten) →
      ∃ read stop, First (endsWith? texts) source.flatten read stop ∧
        (Stream.new (sequences engine texts) source).fragments.1.flatten ++ stop = read ∧
        (Stream.new (sequences engine texts) source).fragments.2.state.stop = some stop) ∧
    ∀ read, read <+: source.flatten → (Buffer.after (sequences engine texts) read).stop = none →
      LongestOpening texts read (Buffer.after (sequences engine texts) read).pending := by
  have hproper := sequences_proper engine texts
  obtain ⟨hfragments, hstop⟩ := Stream.fragments_eq (sequences engine texts) source
  generalize source.flatten = text at hfragments hstop ⊢
  have hnil : endsWith? texts [] = none :=
    endsWith?_eq_none.2 fun _ _ hne hsuffix => hne (List.suffix_nil.1 hsuffix)
  have htells : Buffer.Tells (sequences engine texts) (endsWith? texts) text := by
    intro read c _ hopen _
    rw [firstWhole_literals h]
    exact Buffer.endsWith?_pending h hopen c
  have hrun := htells.stopsAt_or_open hproper hnil
  refine ⟨?_, ?_, fun read _ hopen => Buffer.pending_longestOpening h hopen⟩
  · intro hnone
    rcases hrun with ⟨-, hopen⟩ | ⟨read, stop, hfirst, -⟩
    · rw [hfragments, hstop, hopen]
      exact ⟨Buffer.released_append_pending hproper hopen, rfl⟩
    · exact absurd (fun read hread => endsWith?_of_absent hnone hread) hfirst.not_none
  · intro hgiven
    obtain ⟨stop, hmem, hne, hinside⟩ := hgiven
    rcases hrun with ⟨hnone, -⟩ | ⟨read, stop, hfirst, hstops⟩
    · obtain ⟨read, hread, hsuffix⟩ := exists_read_of_occurrence hinside
      exact absurd hsuffix (endsWith?_eq_none.1 (hnone read hread) stop hmem hne)
    · obtain ⟨hafter, hemitted⟩ := hstops.after_eq hfirst.inside
      refine ⟨read, stop, hfirst, ?_, hstop.trans hafter⟩
      rw [hfragments, hafter, Option.isSome_some, if_pos rfl, List.append_nil]
      exact hemitted

/-- A sequence that begins inside a repeated opening, cut in the middle. -/
theorem literal_stream_repeated_opening :
    (∀ stop ∈ [['b', 'b'], ['a', 'a', 'b']], Sequence.patternSource? stop = none) ∧
      ∃ read stop, First (endsWith? [['b', 'b'], ['a', 'a', 'b']]) ['a', 'a', 'a', 'b', 'b']
          read stop ∧
        (Stream.new (sequences Pattern.engine [['b', 'b'], ['a', 'a', 'b']])
          [['a', 'a'], ['a', 'b', 'b']]).fragments.1.flatten ++ stop = read ∧
        (Stream.new (sequences Pattern.engine [['b', 'b'], ['a', 'a', 'b']])
          [['a', 'a'], ['a', 'b', 'b']]).fragments.2.state.stop = some stop :=
  ⟨by decide, (literal_stream (by decide) [['a', 'a'], ['a', 'b', 'b']]).2.1
    ⟨['a', 'a', 'b'], by decide, by decide, ['a'], ['b'], rfl⟩⟩

end Redraft.Stop
