import Redraft.Proofs.Align.SuffixOrder

/-!
The search for the longest occurrence of a pattern's beginning. Walking away from the place
where the pattern would be inserted, the suffixes agree less and less with it, so the walk
may stop as soon as one agrees with less than the best so far.
-/

namespace Redraft.Align

/-- The occurrence is as long as any at or after `start`, and earlier than those as long. -/
structure Occurrence.Longest (text pattern : Tokens) (start : Nat) (found : Occurrence) :
    Prop where
  start_le : start ≤ found.position
  nonempty : 0 < found.length
  length_eq : found.length = Tokens.agreement (text.drop found.position) pattern
  first : ∀ p, start ≤ p →
    Tokens.agreement (text.drop p) pattern < found.length ∨
      Tokens.agreement (text.drop p) pattern = found.length ∧ found.position ≤ p

def Occurrence.Answers (text pattern : Tokens) (start : Nat) : Option Occurrence → Prop
  | none => ∀ p, start ≤ p → Tokens.agreement (text.drop p) pattern = 0
  | some found => found.Longest text pattern start

theorem Occurrence.Longest.unique {text pattern : Tokens} {start : Nat} {a b : Occurrence}
    (ha : a.Longest text pattern start) (hb : b.Longest text pattern start) : a = b := by
  have hab := ha.first b.position hb.start_le
  have hba := hb.first a.position ha.start_le
  rw [← hb.length_eq] at hab
  rw [← ha.length_eq] at hba
  obtain ⟨p, n⟩ := a
  obtain ⟨q, m⟩ := b
  simp only [Occurrence.mk.injEq] at *
  omega

theorem Occurrence.Answers.unique {text pattern : Tokens} {start : Nat}
    {a b : Option Occurrence} (ha : Answers text pattern start a)
    (hb : Answers text pattern start b) : a = b := by
  cases a with
  | none =>
      cases b with
      | none => rfl
      | some b =>
          have hpos := hb.nonempty
          rw [hb.length_eq, ha b.position hb.start_le] at hpos
          exact absurd hpos (Nat.lt_irrefl 0)
  | some a =>
      cases b with
      | none =>
          have hpos := ha.nonempty
          rw [ha.length_eq, hb a.position ha.start_le] at hpos
          exact absurd hpos (Nat.lt_irrefl 0)
      | some b => exact congrArg some (Longest.unique ha hb)

theorem Occurrence.Longest.later {text pattern : Tokens} {start start' : Nat}
    {found : Occurrence} (h : found.Longest text pattern start) (hstart : start ≤ start')
    (hle : start' ≤ found.position) : found.Longest text pattern start' where
  start_le := hle
  nonempty := h.nonempty
  length_eq := h.length_eq
  first p hp := h.first p (Nat.le_trans hstart hp)

theorem Suffix.getElem?_all (start k : Nat) (text : Tokens) :
    (Suffix.all start text)[k]? =
      if k < text.length then some ⟨start + k, text.drop k⟩ else none := by
  induction text generalizing start k with
  | nil => simp [Suffix.all]
  | cons token text ih =>
      cases k with
      | zero => simp [Suffix.all]
      | succ k => simp [Suffix.all, ih, Nat.add_left_comm, Nat.add_comm]

namespace SuffixArray

/-- The array holds every suffix of its text that is not empty, in lexicographic order. -/
structure Ordered (suffixes : SuffixArray) : Prop where
  mem_iff : ∀ suffix, suffix ∈ suffixes.sorted.toList ↔
    suffix.start < suffixes.text.length ∧ suffix.tokens = suffixes.text.drop suffix.start
  sorted : suffixes.sorted.toList.Pairwise fun a b => Tokens.NotAbove a.tokens b.tokens

theorem toList_buildWith {sort : KeySort} (hsort : sort.Lawful) (text : Tokens) :
    (buildWith sort text).sorted.toList =
      (Suffixes.order sort text).map fun p => ⟨p, text.drop p⟩ := by
  rw [buildWith, List.toList_toArray]
  apply List.map_congr_left
  intro p hp
  rw [(Suffixes.order_sorted hsort text).1.mem_iff, List.mem_range] at hp
  simp [Array.getD_eq_getD_getElem?, Suffix.getElem?_all, hp]

theorem buildWith_ordered {sort : KeySort} (hsort : sort.Lawful) (text : Tokens) :
    (buildWith sort text).Ordered where
  mem_iff suffix := by
    rw [toList_buildWith hsort, List.mem_map]
    constructor
    · intro hgiven
      obtain ⟨p, hp, rfl⟩ := hgiven
      rw [(Suffixes.order_sorted hsort text).1.mem_iff, List.mem_range] at hp
      exact ⟨hp, rfl⟩
    · intro hgiven
      obtain ⟨hstart, htokens⟩ := hgiven
      refine ⟨suffix.start, ?_, ?_⟩
      · rw [(Suffixes.order_sorted hsort text).1.mem_iff, List.mem_range]
        exact hstart
      · change _ = text.drop suffix.start at htokens
        rw [← htokens]
  sorted := by
    rw [toList_buildWith hsort, List.pairwise_map]
    exact (Suffixes.order_sorted hsort text).2.imp fun hlt => List.lt_asymm hlt

theorem build_ordered (text : Tokens) : (build text).Ordered :=
  buildWith_ordered KeySort.merge_lawful text

theorem lt_of_lt_of_sorted {sorted : Array Suffix} {pattern : Tokens} {i j : Nat}
    {a b : Suffix}
    (hsorted : sorted.toList.Pairwise fun a b => Tokens.NotAbove a.tokens b.tokens)
    (ha : sorted[i]? = some a) (hb : sorted[j]? = some b) (hij : i ≤ j)
    (hlt : b.tokens < pattern) : a.tokens < pattern := by
  obtain ⟨hi, rfl⟩ := Array.getElem?_eq_some_iff.1 ha
  obtain ⟨hj, rfl⟩ := Array.getElem?_eq_some_iff.1 hb
  rcases Nat.lt_or_eq_of_le hij with hij | rfl
  · have hle := List.pairwise_iff_getElem.1 hsorted i j hi hj hij
    by_contra hnot
    exact Tokens.NotAbove.trans hnot hle hlt
  · exact hlt

theorem insertionPoint_spec {sorted : Array Suffix} (pattern : Tokens) {lo hi : Nat}
    (hsorted : sorted.toList.Pairwise fun a b => Tokens.NotAbove a.tokens b.tokens)
    (hlo : ∀ i suffix, sorted[i]? = some suffix → i < lo → suffix.tokens < pattern)
    (hhi : ∀ i suffix, sorted[i]? = some suffix → hi ≤ i → ¬ suffix.tokens < pattern)
    (hle : lo ≤ hi) (hsize : hi ≤ sorted.size) :
    ∀ i suffix, sorted[i]? = some suffix →
      (suffix.tokens < pattern ↔ i < insertionPoint sorted pattern lo hi) := by
  fun_induction insertionPoint sorted pattern lo hi with
  | case1 lo hi hlt middle hbelow ih =>
      obtain ⟨atMiddle, hget, hmiddle⟩ := (Option.any_eq_true _ _).1 hbelow
      rw [decide_eq_true_iff] at hmiddle
      refine ih ?_ hhi (by omega) hsize
      intro i suffix hsuffix hi
      exact lt_of_lt_of_sorted hsorted hsuffix hget (Nat.le_of_lt_succ hi) hmiddle
  | case2 lo hi hlt middle hnot ih =>
      refine ih hlo ?_ (by omega) (by omega)
      intro i suffix hsuffix hi hbelow
      apply hnot
      have hin : middle < sorted.size := by omega
      rw [Array.getElem?_eq_getElem hin, Option.any_some, decide_eq_true_iff]
      exact lt_of_lt_of_sorted hsorted (Array.getElem?_eq_getElem hin) hsuffix hi hbelow
  | case3 lo hi hnot =>
      intro i suffix hsuffix
      constructor
      · intro hbelow
        by_contra hge
        exact hhi i suffix hsuffix (by omega) hbelow
      · exact hlo i suffix hsuffix

variable {text pattern : Tokens} {start : Nat}

/-- What a walk over the suffixes seen so far has found: none shares a token, or the best of
them. -/
def Leads (pattern : Tokens) (start : Nat) (seen : List Suffix) : Option Occurrence → Prop
  | none => ∀ suffix ∈ seen, start ≤ suffix.start →
      Tokens.agreement suffix.tokens pattern = 0
  | some best =>
      (∃ suffix ∈ seen, start ≤ suffix.start ∧ best.position = suffix.start ∧
        best.length = Tokens.agreement suffix.tokens pattern ∧ 0 < best.length) ∧
      ∀ suffix ∈ seen, start ≤ suffix.start →
        Tokens.agreement suffix.tokens pattern < best.length ∨
          Tokens.agreement suffix.tokens pattern = best.length ∧ best.position ≤ suffix.start

theorem Leads.append_short {seen rest : List Suffix} {best : Option Occurrence}
    (h : Leads pattern start seen best)
    (hshort : ∀ suffix ∈ rest, Tokens.agreement suffix.tokens pattern = 0 ∨
      best.any (Tokens.agreement suffix.tokens pattern < ·.length) = true) :
    Leads pattern start (seen ++ rest) best := by
  cases best with
  | none =>
      intro suffix hsuffix hstart
      rcases List.mem_append.1 hsuffix with hseen | hrest
      · exact h suffix hseen hstart
      · simpa using hshort suffix hrest
  | some best =>
      obtain ⟨⟨leader, hleader, hrest⟩, hall⟩ := h
      refine ⟨⟨leader, List.mem_append_left _ hleader, hrest⟩, ?_⟩
      intro suffix hsuffix hstart
      rcases List.mem_append.1 hsuffix with hseen | hmem
      · exact hall suffix hseen hstart
      · obtain ⟨-, -, -, hpos⟩ := hrest
        rcases hshort suffix hmem with hzero | hless
        · exact .inl (by omega)
        · exact .inl (by simpa using hless)

theorem Leads.append_early {seen : List Suffix} {suffix : Suffix} {best : Option Occurrence}
    (h : Leads pattern start seen best) (hearly : suffix.start < start) :
    Leads pattern start (seen ++ [suffix]) best := by
  have hnot : ¬ start ≤ suffix.start := Nat.not_le.2 hearly
  cases best with
  | none => simpa [Leads, or_imp, forall_and, hnot] using h
  | some best =>
      obtain ⟨⟨leader, hleader, hrest⟩, hall⟩ := h
      refine ⟨⟨leader, List.mem_append_left _ hleader, hrest⟩, ?_⟩
      simpa [or_imp, forall_and, hnot] using hall

theorem Leads.append_improve {seen : List Suffix} {suffix : Suffix}
    {best : Option Occurrence} (h : Leads pattern start seen best)
    (hstart : start ≤ suffix.start) (hpos : 0 < Tokens.agreement suffix.tokens pattern) :
    Leads pattern start (seen ++ [suffix]) (some (Occurrence.improve
      ⟨suffix.start, Tokens.agreement suffix.tokens pattern⟩ best)) := by
  have hlast : suffix ∈ seen ++ [suffix] := by simp
  cases best with
  | none =>
      refine ⟨⟨suffix, hlast, hstart, rfl, rfl, hpos⟩, ?_⟩
      intro other hother hle
      rcases List.mem_append.1 hother with hseen | hnew
      · exact .inl (by rw [h other hseen hle]; exact hpos)
      · obtain rfl := List.mem_singleton.1 hnew
        exact .inr ⟨rfl, Nat.le_refl _⟩
  | some best =>
      obtain ⟨⟨leader, hleader, hrest⟩, hall⟩ := h
      rw [Occurrence.improve]
      split
      · rename_i hbetter
        dsimp only at hbetter
        refine ⟨⟨suffix, hlast, hstart, rfl, rfl, hpos⟩, ?_⟩
        intro other hother hle
        dsimp only
        rcases List.mem_append.1 hother with hseen | hnew
        · have := hall other hseen hle
          omega
        · obtain rfl := List.mem_singleton.1 hnew
          exact .inr ⟨rfl, Nat.le_refl _⟩
      · rename_i hworse
        dsimp only at hworse
        refine ⟨⟨leader, List.mem_append_left _ hleader, hrest⟩, ?_⟩
        intro other hother hle
        rcases List.mem_append.1 hother with hseen | hnew
        · exact hall other hseen hle
        · obtain rfl := List.mem_singleton.1 hnew
          omega

theorem search_leads {seen rest : List Suffix} {best : Option Occurrence}
    (hfading : rest.Pairwise fun a b =>
      Tokens.agreement b.tokens pattern ≤ Tokens.agreement a.tokens pattern)
    (h : Leads pattern start seen best) :
    Leads pattern start (seen ++ rest) (search pattern start rest best) := by
  induction rest generalizing seen best with
  | nil => simpa [search] using h
  | cons suffix rest ih =>
      obtain ⟨hfirst, hfading⟩ := List.pairwise_cons.1 hfading
      rw [search]
      by_cases hstop : Tokens.agreement suffix.tokens pattern = 0 ∨
          best.any (Tokens.agreement suffix.tokens pattern < ·.length) = true
      · rw [if_pos hstop]
        apply h.append_short
        intro other hother
        have hle : Tokens.agreement other.tokens pattern ≤
            Tokens.agreement suffix.tokens pattern := by
          rcases List.mem_cons.1 hother with rfl | hrest
          · exact Nat.le_refl _
          · exact hfirst other hrest
        rcases hstop with hzero | hless
        · exact .inl (by omega)
        · obtain ⟨leader, rfl, hbelow⟩ := (Option.any_eq_true _ _).1 hless
          rw [decide_eq_true_iff] at hbelow
          exact .inr (by simpa using Nat.lt_of_le_of_lt hle hbelow)
      · rw [if_neg hstop]
        rw [← List.singleton_append, ← List.append_assoc]
        by_cases hearly : suffix.start < start
        · rw [if_pos hearly]
          exact ih hfading (h.append_early hearly)
        · rw [if_neg hearly]
          apply ih hfading
          exact h.append_improve (Nat.le_of_not_lt hearly)
            (Nat.pos_of_ne_zero fun hzero => hstop (.inl hzero))

theorem fading_below {suffixes : List Suffix}
    (hsorted : suffixes.Pairwise fun a b => Tokens.NotAbove a.tokens b.tokens)
    (hbelow : ∀ suffix ∈ suffixes, suffix.tokens < pattern) :
    suffixes.reverse.Pairwise fun a b =>
      Tokens.agreement b.tokens pattern ≤ Tokens.agreement a.tokens pattern := by
  rw [List.pairwise_reverse]
  refine hsorted.imp_of_mem ?_
  intro a b _ hb hab
  exact Tokens.agreement_le_of_below hab (List.lt_asymm (hbelow b hb))

theorem fading_above {suffixes : List Suffix}
    (hsorted : suffixes.Pairwise fun a b => Tokens.NotAbove a.tokens b.tokens)
    (habove : ∀ suffix ∈ suffixes, Tokens.NotAbove pattern suffix.tokens) :
    suffixes.Pairwise fun a b =>
      Tokens.agreement b.tokens pattern ≤ Tokens.agreement a.tokens pattern := by
  refine hsorted.imp_of_mem ?_
  intro a b ha _ hab
  exact Tokens.agreement_le_of_above (habove a ha) hab

theorem Leads.answers {suffixes : SuffixArray} {seen : List Suffix}
    {best : Option Occurrence} (hordered : suffixes.Ordered)
    (hseen : ∀ suffix, suffix ∈ seen ↔ suffix ∈ suffixes.sorted.toList)
    (h : Leads pattern start seen best) :
    Occurrence.Answers suffixes.text pattern start best := by
  have hmem : ∀ p < suffixes.text.length, ⟨p, suffixes.text.drop p⟩ ∈ seen := by
    intro p hp
    rw [hseen, hordered.mem_iff]
    exact ⟨hp, rfl⟩
  have hbehind : ∀ p, suffixes.text.length ≤ p →
      Tokens.agreement (suffixes.text.drop p) pattern = 0 := by
    intro p hp
    rw [List.drop_eq_nil_of_le hp, Tokens.agreement_nil_left]
  cases best with
  | none =>
      intro p hp
      rcases Nat.lt_or_ge p suffixes.text.length with hin | hout
      · exact h _ (hmem p hin) hp
      · exact hbehind p hout
  | some best =>
      obtain ⟨⟨leader, hleader, hstart, hposition, hlength, hpos⟩, hall⟩ := h
      rw [hseen, hordered.mem_iff] at hleader
      refine ⟨hposition ▸ hstart, hpos, ?_, ?_⟩
      · rw [hlength, hleader.2, hposition]
      · intro p hp
        rcases Nat.lt_or_ge p suffixes.text.length with hin | hout
        · exact hall _ (hmem p hin) hp
        · exact .inl (by rw [hbehind p hout]; exact hpos)

section Place

variable {suffixes : SuffixArray} {suffix : Suffix}

theorem Ordered.lt_iff_insertionPoint (hordered : suffixes.Ordered) (pattern : Tokens)
    {i : Nat} (hget : suffixes.sorted[i]? = some suffix) :
    suffix.tokens < pattern ↔
      i < insertionPoint suffixes.sorted pattern 0 suffixes.sorted.size := by
  have hlow : ∀ i suffix, suffixes.sorted[i]? = some suffix → i < 0 →
      suffix.tokens < pattern := fun _ _ _ hi => absurd hi (Nat.not_lt_zero _)
  have hhigh : ∀ i suffix, suffixes.sorted[i]? = some suffix → suffixes.sorted.size ≤ i →
      ¬ suffix.tokens < pattern := fun _ _ hsuffix hi =>
    absurd (Array.getElem?_eq_some_iff.1 hsuffix).1 (Nat.not_lt.2 hi)
  exact insertionPoint_spec pattern hordered.sorted hlow hhigh (Nat.zero_le _)
    (Nat.le_refl _) i suffix hget

theorem Ordered.below_of_mem_take (hordered : suffixes.Ordered)
    (hmem : suffix ∈ suffixes.sorted.toList.take
      (insertionPoint suffixes.sorted pattern 0 suffixes.sorted.size)) :
    suffix.tokens < pattern := by
  obtain ⟨i, hi, hget⟩ := List.mem_take_iff_getElem.1 hmem
  have hget' : suffixes.sorted[i]? = some suffix := by
    rw [← Array.getElem?_toList]
    exact List.getElem?_eq_some_iff.2 ⟨Nat.lt_of_lt_of_le hi (Nat.min_le_right _ _), hget⟩
  rw [hordered.lt_iff_insertionPoint pattern hget']
  exact Nat.lt_of_lt_of_le hi (Nat.min_le_left _ _)

theorem Ordered.above_of_mem_drop (hordered : suffixes.Ordered)
    (hmem : suffix ∈ suffixes.sorted.toList.drop
      (insertionPoint suffixes.sorted pattern 0 suffixes.sorted.size)) :
    Tokens.NotAbove pattern suffix.tokens := by
  obtain ⟨i, hi, hget⟩ := List.mem_drop_iff_getElem.1 hmem
  rw [Nat.add_comm] at hi
  have hget' := List.getElem?_eq_some_iff.2 ⟨hi, hget⟩
  rw [Array.getElem?_toList] at hget'
  rw [Tokens.NotAbove, hordered.lt_iff_insertionPoint pattern hget']
  exact Nat.not_lt.2 (Nat.le_add_right _ i)

end Place

/-- The search finds the longest beginning of the pattern, of equally long ones the
earliest. -/
theorem longestOccurrenceFrom_answers {suffixes : SuffixArray} (hordered : suffixes.Ordered)
    (pattern : Tokens) (start : Nat) :
    Occurrence.Answers suffixes.text pattern start
      (suffixes.longestOccurrenceFrom pattern start) := by
  rw [longestOccurrenceFrom]
  by_cases hempty : (pattern.isEmpty || suffixes.sorted.isEmpty) = true
  · rw [if_pos hempty]
    have hnone : Leads pattern start suffixes.sorted.toList none := by
      intro suffix hsuffix _
      rcases Bool.or_eq_true_iff.1 hempty with hpattern | hsorted
      · rw [List.isEmpty_iff.1 hpattern, Tokens.agreement_nil_right]
      · rw [Array.isEmpty_iff.1 hsorted] at hsuffix
        simp at hsuffix
    exact hnone.answers hordered fun _ => Iff.rfl
  · rw [if_neg hempty]
    have hnone : Leads pattern start [] none := by simp [Leads]
    have hback := search_leads
      (fading_below (hordered.sorted.sublist (List.take_sublist _ _))
        fun _ => hordered.below_of_mem_take) hnone
    have honward := search_leads
      (fading_above (hordered.sorted.sublist (List.drop_sublist _ _))
        fun _ => hordered.above_of_mem_drop) hback
    refine honward.answers hordered ?_
    intro suffix
    rw [List.nil_append, List.mem_append, List.mem_reverse, ← List.mem_append,
      List.take_append_drop]

end SuffixArray

end Redraft.Align
