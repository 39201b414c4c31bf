import Mathlib.Data.List.Infix
import Redraft.Proofs.Stop.Literals

namespace Redraft.Stop

variable {engine : Pattern.Engine} {texts : List (List Char)} {text : List Char}

def StandsAt (texts : List (List Char)) (text : List Char) (place : Nat) : Prop :=
  ∃ stop ∈ texts, stop ≠ [] ∧ stop <+: text.drop place

def Free (texts : List (List Char)) (text : List Char) : Prop :=
  ∀ stop ∈ texts, stop ≠ [] → ¬ stop <:+: text

/-- One of the texts stands inside another, behind its beginning. -/
def Nested (texts : List (List Char)) : Prop :=
  ∃ inner ∈ texts, ∃ outer ∈ texts, inner ≠ [] ∧ inner <:+: outer.tail

instance (texts : List (List Char)) (text : List Char) : Decidable (Free texts text) :=
  inferInstanceAs (Decidable (∀ _ ∈ _, _ → _))

instance (texts : List (List Char)) : Decidable (Nested texts) :=
  inferInstanceAs (Decidable (∃ _ ∈ _, ∃ _ ∈ _, _))

section Places

theorem infix_iff_drop {stop : List Char} :
    stop <:+: text ↔ ∃ place, stop <+: text.drop place := by
  constructor
  · rintro ⟨front, rest, rfl⟩
    refine ⟨front.length, ?_⟩
    rw [List.append_assoc, List.drop_left]
    exact List.prefix_append stop rest
  · rintro ⟨place, hplace⟩
    exact hplace.isInfix.trans (List.drop_suffix place text).isInfix

theorem free_iff : Free texts text ↔ ∀ place, ¬ StandsAt texts text place := by
  constructor
  · rintro hfree place ⟨stop, hstop, hne, hplace⟩
    exact hfree stop hstop hne (infix_iff_drop.2 ⟨place, hplace⟩)
  · intro hnowhere stop hstop hne hinside
    obtain ⟨place, hplace⟩ := infix_iff_drop.1 hinside
    exact hnowhere place ⟨stop, hstop, hne, hplace⟩

theorem StandsAt.lt_length {place : Nat} (hstands : StandsAt texts text place) :
    place < text.length := by
  obtain ⟨stop, -, hne, hplace⟩ := hstands
  by_contra hbehind
  rw [List.drop_eq_nil_of_le (Nat.le_of_not_lt hbehind)] at hplace
  exact hne (List.prefix_nil.1 hplace)

theorem StandsAt.of_take {place count : Nat} (hstands : StandsAt texts (text.take count) place) :
    place < count ∧ StandsAt texts text place := by
  have hlt := hstands.lt_length
  obtain ⟨stop, hstop, hne, hplace⟩ := hstands
  rw [List.length_take] at hlt
  rw [List.drop_take] at hplace
  exact ⟨by omega, stop, hstop, hne, hplace.trans (List.take_prefix ..)⟩

theorem prefix_of_literalFind? {literal : List Char} {place : Nat}
    (hfind : Sequence.literalFind? literal text = some place) :
    literal <+: text.drop place := by
  induction text generalizing place with
  | nil =>
      rw [Sequence.literalFind?] at hfind
      split at hfind
      · rename_i hempty
        rw [List.isEmpty_iff.1 hempty]
        exact List.nil_prefix
      · cases hfind
  | cons c text ih =>
      rw [Sequence.literalFind?] at hfind
      split at hfind
      · rename_i hhere
        cases hfind
        exact List.isPrefixOf_iff_prefix.1 hhere
      · obtain ⟨later, hlater, rfl⟩ := Option.map_eq_some_iff.1 hfind
        exact ih hlater

theorem exists_literalFind?_le {literal : List Char} (hne : literal ≠ []) {place : Nat}
    (hplace : literal <+: text.drop place) :
    ∃ first, Sequence.literalFind? literal text = some first ∧ first ≤ place := by
  induction text generalizing place with
  | nil =>
      rw [List.drop_nil] at hplace
      exact absurd (List.prefix_nil.1 hplace) hne
  | cons c text ih =>
      rw [Sequence.literalFind?]
      split
      · exact ⟨0, rfl, Nat.zero_le place⟩
      · rename_i helsewhere
        cases place with
        | zero => exact absurd (List.isPrefixOf_iff_prefix.2 hplace) helsewhere
        | succ place =>
            obtain ⟨first, hfirst, hle⟩ := ih hplace
            exact ⟨first + 1, by rw [hfirst]; rfl, Nat.succ_le_succ hle⟩

end Places

section Trim

theorem trim_cases (h : ∀ stop ∈ texts, Sequence.patternSource? stop = none)
    (text : List Char) :
    (Free texts text ∧ trim (sequences engine texts) text = text) ∨
      ∃ place, StandsAt texts text place ∧
        (∀ other, StandsAt texts text other → place ≤ other) ∧
        trim (sequences engine texts) text = text.take place := by
  have hleast {other : Nat} (hother : StandsAt texts text other) :
      ∃ place, earliest ((sequences engine texts).map (·.find? text)) = some place ∧
        place ≤ other := by
    obtain ⟨stop, hstop, hne, hplace⟩ := hother
    obtain ⟨first, hfirst, hle⟩ := exists_literalFind?_le hne hplace
    have hsequence : .literal stop ∈ sequences engine texts :=
      (mem_sequences_literal h).2 ⟨stop, hstop, hne, rfl⟩
    have hfound : some first ∈ (sequences engine texts).map (·.find? text) :=
      List.mem_map.2 ⟨.literal stop, hsequence, hfirst⟩
    obtain ⟨place, hearliest, hle'⟩ := exists_earliest_le hfound
    exact ⟨place, hearliest, Nat.le_trans hle' hle⟩
  cases hearliest : earliest ((sequences engine texts).map (·.find? text)) with
  | none =>
      refine .inl ⟨free_iff.2 fun place hstands => ?_, ?_⟩
      · obtain ⟨_, hsome, -⟩ := hleast hstands
        rw [hearliest] at hsome
        cases hsome
      · rw [trim, hearliest]
  | some place =>
      refine .inr ⟨place, ?_, fun other hother => ?_, ?_⟩
      · obtain ⟨sequence, hmem, hfind⟩ := List.mem_map.1 (mem_of_earliest hearliest)
        obtain ⟨stop, hstop, hne, rfl⟩ := (mem_sequences_literal h).1 hmem
        exact ⟨stop, hstop, hne, prefix_of_literalFind? hfind⟩
      · obtain ⟨first, hfirst, hle⟩ := hleast hother
        rw [hearliest] at hfirst
        cases hfirst
        exact hle
      · rw [trim, hearliest]

theorem trim_of_free (h : ∀ stop ∈ texts, Sequence.patternSource? stop = none)
    (hfree : Free texts text) : trim (sequences engine texts) text = text := by
  rcases trim_cases h text with ⟨-, htrim⟩ | ⟨place, hstands, -⟩
  · exact htrim
  · exact absurd hstands (free_iff.1 hfree place)

theorem free_trim (h : ∀ stop ∈ texts, Sequence.patternSource? stop = none)
    (text : List Char) : Free texts (trim (sequences engine texts) text) := by
  rcases trim_cases h text with ⟨hfree, htrim⟩ | ⟨place, -, hleast, htrim⟩
  · rw [htrim]
    exact hfree
  · rw [htrim, free_iff]
    intro other hother
    obtain ⟨hlt, hstands⟩ := hother.of_take
    exact absurd (hleast other hstands) (Nat.not_le.2 hlt)

end Trim

section Streamed

variable {source : List (List Char)} {read stop : List Char}

theorem endsWith?_eq_some (hends : endsWith? texts read = some stop) :
    stop ∈ texts ∧ stop ≠ [] ∧ stop <:+ read := by
  have hfound := List.find?_some hends
  rw [Bool.and_eq_true, List.isSuffixOf_iff_suffix] at hfound
  exact ⟨List.mem_of_find?_eq_some hends, by simpa using hfound.1, hfound.2⟩

/-- A stream gives all of its text, or the part in front of the stop sequence that is
complete first. -/
theorem stream_cases (h : ∀ stop ∈ texts, Sequence.patternSource? stop = none)
    (source : List (List Char)) :
    ((∀ read, read <+: source.flatten → endsWith? texts read = none) ∧
      (Stream.new (sequences engine texts) source).fragments.1.flatten = source.flatten ∧
      (Stream.new (sequences engine texts) source).fragments.2.state.stop = none) ∨
    ∃ read stop, First (endsWith? texts) source.flatten read stop ∧
      (Stream.new (sequences engine texts) source).fragments.1.flatten ++ stop = read := by
  have hproper := sequences_proper engine texts
  obtain ⟨hfragments, hstop⟩ := Stream.fragments_eq (sequences engine texts) source
  have hnil : endsWith? texts [] = none :=
    endsWith?_eq_none.2 fun _ _ hne hsuffix => hne (List.suffix_nil.1 hsuffix)
  have htells : Buffer.Tells (sequences engine texts) (endsWith? texts) source.flatten := by
    intro read c _ hopen _
    rw [firstWhole_literals h]
    exact Buffer.endsWith?_pending h hopen c
  rw [hfragments, hstop]
  rcases htells.stopsAt_or_open hproper hnil with ⟨hnone, hopen⟩ | ⟨read, stop, hfirst, hstops⟩
  · refine .inl ⟨hnone, ?_, hopen⟩
    rw [hopen]
    exact Buffer.released_append_pending hproper hopen
  · obtain ⟨hafter, hemitted⟩ := hstops.after_eq hfirst.inside
    refine .inr ⟨read, stop, hfirst, ?_⟩
    rw [hafter, Option.isSome_some, if_pos rfl, List.append_nil]
    exact hemitted

theorem stream_of_free (h : ∀ stop ∈ texts, Sequence.patternSource? stop = none)
    (hfree : Free texts source.flatten) :
    (Stream.new (sequences engine texts) source).fragments.1.flatten = source.flatten ∧
      (Stream.new (sequences engine texts) source).fragments.2.state.stop = none := by
  rcases stream_cases h source with ⟨-, hall⟩ | ⟨read, stop, hfirst, -⟩
  · exact hall
  · exact absurd (fun read hread => endsWith?_of_absent hfree hread) hfirst.not_none

theorem free_of_endsWith? (hnone : ∀ read, read <+: text → endsWith? texts read = none) :
    Free texts text := by
  intro stop hstop hne hinside
  obtain ⟨read, hread, hsuffix⟩ := exists_read_of_occurrence hinside
  exact endsWith?_eq_none.1 (hnone read hread) stop hstop hne hsuffix

theorem First.free {front : List Char} (hfirst : First (endsWith? texts) text read stop)
    (hparts : front ++ stop = read) : Free texts front := by
  obtain ⟨-, hne, -⟩ := endsWith?_eq_some hfirst.found
  apply free_of_endsWith?
  intro shorter hshorter
  apply hfirst.shortest shorter
  · rw [← hparts]
    exact hshorter.trans (List.prefix_append front stop)
  · intro hwhole
    rw [hwhole, ← hparts] at hshorter
    have hlength := hshorter.length_le
    have hpos := List.length_pos_iff.2 hne
    rw [List.length_append] at hlength
    omega

theorem First.stop_there {front : List Char} (hfirst : First (endsWith? texts) text read stop)
    (hparts : front ++ stop = read) : stop <+: text.drop front.length := by
  obtain ⟨rest, hrest⟩ := hfirst.inside
  rw [← hrest, ← hparts, List.append_assoc, List.drop_left]
  exact List.prefix_append stop rest

theorem First.le_end {outer : List Char} (hfirst : First (endsWith? texts) text read stop)
    (houter : outer ∈ texts) (hne : outer ≠ []) {place : Nat}
    (hplace : outer <+: text.drop place) : read.length ≤ place + outer.length := by
  by_contra hearly
  have hlength := hplace.length_le
  have hpos := List.length_pos_iff.2 hne
  rw [List.length_drop] at hlength
  have hends : outer <:+ text.take (place + outer.length) := by
    rw [List.take_add, ← List.prefix_iff_eq_take.1 hplace]
    exact List.suffix_append (text.take place) outer
  have hsize : (text.take (place + outer.length)).length = place + outer.length := by
    rw [List.length_take]
    omega
  have hinside : text.take (place + outer.length) <+: read :=
    List.prefix_of_prefix_length_le (List.take_prefix ..) hfirst.inside (by omega)
  have hproper : text.take (place + outer.length) ≠ read := by
    intro heq
    rw [heq] at hsize
    omega
  exact endsWith?_eq_none.1 (hfirst.shortest _ hinside hproper) outer houter hne hends

theorem First.nested {front : List Char} (hfirst : First (endsWith? texts) text read stop)
    (hparts : front ++ stop = read) {place : Nat} (hstands : StandsAt texts text place)
    (hbefore : place < front.length) : Nested texts := by
  obtain ⟨hstop, hne, -⟩ := endsWith?_eq_some hfirst.found
  obtain ⟨outer, houter, houterne, hplace⟩ := hstands
  have hlate := hfirst.le_end houter houterne hplace
  obtain ⟨depth, hdepth⟩ := Nat.exists_eq_add_of_lt hbefore
  have hinside : outer.drop (depth + 1) <+: text.drop front.length := by
    have hdropped := List.IsPrefix.drop hplace (depth + 1)
    rwa [List.drop_drop, ← Nat.add_assoc, ← hdepth] at hdropped
  have hthere := hfirst.stop_there hparts
  refine ⟨stop, hstop, outer, houter, hne, infix_iff_drop.2 ⟨depth, ?_⟩⟩
  rw [List.drop_tail]
  refine List.prefix_of_prefix_length_le hthere hinside ?_
  rw [← hparts, List.length_append] at hlate
  rw [List.length_drop]
  omega

theorem trim_prefix_stream (h : ∀ stop ∈ texts, Sequence.patternSource? stop = none)
    (source : List (List Char)) :
    trim (sequences engine texts) source.flatten <+:
        (Stream.new (sequences engine texts) source).fragments.1.flatten ∧
      (¬ Nested texts → trim (sequences engine texts) source.flatten =
        (Stream.new (sequences engine texts) source).fragments.1.flatten) ∧
      Free texts (Stream.new (sequences engine texts) source).fragments.1.flatten := by
  rcases stream_cases h source with ⟨hnone, hwhole, -⟩ | ⟨read, stop, hfirst, hparts⟩
  · have hfree := free_of_endsWith? hnone
    rw [hwhole, trim_of_free h hfree]
    exact ⟨List.prefix_rfl, fun _ => rfl, hfree⟩
  · obtain ⟨hstop, hne, -⟩ := endsWith?_eq_some hfirst.found
    have hstands : StandsAt texts source.flatten _ :=
      ⟨stop, hstop, hne, hfirst.stop_there hparts⟩
    have hfree := hfirst.free hparts
    have hfront : (Stream.new (sequences engine texts) source).fragments.1.flatten <+:
        source.flatten :=
      List.IsPrefix.trans ⟨stop, hparts⟩ hfirst.inside
    generalize (Stream.new (sequences engine texts) source).fragments.1.flatten = front at *
    rcases trim_cases h source.flatten with ⟨hnowhere, -⟩ | ⟨place, hplace, hleast, htrim⟩
    · exact absurd hstands (free_iff.1 hnowhere front.length)
    · have hle := hleast front.length hstands
      have hcut : front = source.flatten.take front.length :=
        List.prefix_iff_eq_take.1 hfront
      refine ⟨?_, fun hnone => ?_, hfree⟩
      · rw [htrim, hcut]
        exact List.take_prefix_take_left hle
      · have hge : front.length ≤ place := by
          by_contra hearly
          exact hnone (hfirst.nested hparts hplace (Nat.lt_of_not_le hearly))
        rw [htrim, Nat.le_antisymm hle hge, ← hcut]

/-- Trimming a text and streaming it, if all stop sequences are literal. -/
theorem trimming_agrees_with_streaming (engine : Pattern.Engine)
    (h : ∀ stop ∈ texts, Sequence.patternSource? stop = none) (source : List (List Char)) :
    let trimmed := trim (sequences engine texts) source.flatten
    let streamed := (Stream.new (sequences engine texts) source).fragments.1.flatten
    trimmed <+: streamed ∧ (¬ Nested texts → trimmed = streamed) ∧
      ∀ result ∈ [trimmed, streamed],
        Free texts result ∧ trim (sequences engine texts) result = result ∧
          ∀ pieces : List (List Char), pieces.flatten = result →
            (Stream.new (sequences engine texts) pieces).fragments.1.flatten = result ∧
              (Stream.new (sequences engine texts) pieces).fragments.2.state.stop = none := by
  intro trimmed streamed
  obtain ⟨hbegins, hsame, hstreamed⟩ := trim_prefix_stream h source
  refine ⟨hbegins, hsame, fun result hresult => ?_⟩
  have hfree : Free texts result := by
    rcases List.mem_cons.1 hresult with rfl | hlast
    · exact free_trim h source.flatten
    · rw [List.mem_singleton.1 hlast]
      exact hstreamed
  refine ⟨hfree, trim_of_free h hfree, ?_⟩
  rintro pieces rfl
  exact stream_of_free h hfree

/-- The sequences overlap, neither is inside the other, and one begins where one ends first. -/
theorem trimming_agrees_overlapping :
    let texts := [['b', 'c'], ['a', 'b']]
    (∀ stop ∈ texts, Sequence.patternSource? stop = none) ∧ ¬ Nested texts ∧
      trim (sequences Pattern.engine texts) ['x', 'a', 'b', 'c'] = ['x'] ∧
      (Stream.new (sequences Pattern.engine texts) [['x', 'a'], ['b', 'c']]).fragments.1.flatten = ['x'] := by
  intro texts
  have hliteral : ∀ stop ∈ texts, Sequence.patternSource? stop = none := by decide
  have hflat : ¬ Nested texts := by decide
  have htrim : trim (sequences Pattern.engine texts) ['x', 'a', 'b', 'c'] = ['x'] := by decide
  have hagrees := trimming_agrees_with_streaming Pattern.engine hliteral [['x', 'a'], ['b', 'c']]
  exact ⟨hliteral, hflat, htrim, (hagrees.2.1 hflat).symm.trans htrim⟩

/-- A sequence inside another stops the stream after the other has begun. -/
example : Nested [['b'], ['a', 'b', 'c']] ∧
    trim (sequences Pattern.engine [['b'], ['a', 'b', 'c']]) ['x', 'a', 'b', 'c'] = ['x'] ∧
    (Stream.new (sequences Pattern.engine [['b'], ['a', 'b', 'c']])
      [['x', 'a', 'b', 'c']]).fragments.1.flatten = ['x', 'a'] := by
  decide

end Streamed

end Redraft.Stop
