import Redraft.Align.MatchTable
import Redraft.Proofs.Align.SuffixSearch

/-!
The match table always holds what a fresh lookup of each position would find, however the
output grew. A match that stops inside the output keeps its place because the tokens behind
it play no part in it; one that reaches the end stays the earliest while it keeps reaching
the end.
-/

namespace Redraft.Align

namespace SuffixArray

variable {suffixes : SuffixArray}

/-- A match that stops inside the pattern does not change when the pattern grows. -/
theorem longestOccurrence_append_of_closed (hordered : suffixes.Ordered)
    {pattern : Tokens} (more : Tokens) (hpattern : pattern ≠ [])
    (hclosed : ∀ found, suffixes.longestOccurrence pattern = some found →
      found.length < pattern.length) :
    suffixes.longestOccurrence (pattern ++ more) = suffixes.longestOccurrence pattern := by
  have hanswers := longestOccurrenceFrom_answers hordered pattern 0
  apply (longestOccurrenceFrom_answers hordered (pattern ++ more) 0).unique
  rw [longestOccurrence] at hclosed ⊢
  cases hfound : suffixes.longestOccurrenceFrom pattern 0 with
  | none =>
      rw [hfound] at hanswers
      intro p hp
      rw [Tokens.agreement_append_right, hanswers p hp]
      rw [hanswers p hp]
      exact List.length_pos_iff.2 hpattern
  | some found =>
      rw [hfound] at hanswers
      have hlength := hclosed found hfound
      have hsame : ∀ p, Tokens.agreement (suffixes.text.drop p) (pattern ++ more) =
          Tokens.agreement (suffixes.text.drop p) pattern := by
        intro p
        apply Tokens.agreement_append_right
        have := hanswers.first p (Nat.zero_le p)
        omega
      refine ⟨Nat.zero_le _, hanswers.nonempty, ?_, ?_⟩
      · rw [hsame]
        exact hanswers.length_eq
      · intro p hp
        rw [hsame]
        exact hanswers.first p hp

theorem longestOccurrence_append_of_open (hordered : suffixes.Ordered)
    {pattern : Tokens} (more : Tokens) {found : Occurrence}
    (hfound : suffixes.longestOccurrence pattern = some found)
    (hopen : found.length = pattern.length)
    (hmore : Tokens.agreement (suffixes.text.drop found.position) (pattern ++ more) =
      (pattern ++ more).length) :
    suffixes.longestOccurrence (pattern ++ more) =
      some ⟨found.position, (pattern ++ more).length⟩ := by
  have hanswers := longestOccurrenceFrom_answers hordered pattern 0
  rw [longestOccurrence] at hfound
  rw [hfound] at hanswers
  apply (longestOccurrenceFrom_answers hordered (pattern ++ more) 0).unique
  refine ⟨Nat.zero_le _, ?_, hmore.symm, ?_⟩
  · have := hanswers.nonempty
    simp only [List.length_append]
    omega
  · intro p hp
    have hle := Tokens.agreement_le_right (suffixes.text.drop p) (pattern ++ more)
    rcases Nat.lt_or_eq_of_le hle with hlt | heq
    · exact .inl hlt
    · refine .inr ⟨heq, ?_⟩
      have hwhole : pattern.length ≤ Tokens.agreement (suffixes.text.drop p) pattern := by
        apply Tokens.le_agreement_of_append
        · exact Nat.le_refl _
        · rw [heq, List.length_append]
          exact Nat.le_add_right _ _
      rcases hanswers.first p hp with hless | ⟨-, hposition⟩
      · omega
      · exact hposition

end SuffixArray

namespace MatchTable

variable {suffixes : SuffixArray} {window : Tokens}

def staysOpen (suffixes : SuffixArray) (window : Tokens) (j : Nat) : Bool :=
  (lookup suffixes window j).any (·.generatedEnd == window.length)

/-- The table holds one fresh lookup for each position, and knows the open ones. -/
structure Covers (table : MatchTable) (suffixes : SuffixArray) : Prop where
  size_eq : table.starts.size = table.synced.length
  entry : ∀ j < table.synced.length,
    table.starts[j]? = some (lookup suffixes table.synced j)
  nodup : table.openStarts.Nodup
  open_iff : ∀ j, j ∈ table.openStarts ↔
    j < table.synced.length ∧ staysOpen suffixes table.synced j = true

theorem covers_empty (suffixes : SuffixArray) : empty.Covers suffixes where
  size_eq := rfl
  entry j hj := absurd hj (Nat.not_lt_zero j)
  nodup := .nil
  open_iff j := by simp [empty]

theorem lookup_generatedEnd_le (hordered : suffixes.Ordered) {j : Nat} {block : Block}
    (hj : j ≤ window.length) (hlookup : lookup suffixes window j = some block) :
    block.generatedEnd ≤ window.length := by
  obtain ⟨found, hfound, rfl⟩ := Option.map_eq_some_iff.1 hlookup
  have hanswers := SuffixArray.longestOccurrenceFrom_answers hordered (window.drop j) 0
  rw [SuffixArray.longestOccurrence] at hfound
  rw [hfound] at hanswers
  have hle := Tokens.agreement_le_right (suffixes.text.drop found.position) (window.drop j)
  rw [← hanswers.length_eq, List.length_drop] at hle
  simp only [Block.generatedEnd]
  omega

theorem lookup_generatedEnd_lt (hordered : suffixes.Ordered) {j : Nat} {block : Block}
    (hj : j ≤ window.length) (hlookup : lookup suffixes window j = some block)
    (hclosed : staysOpen suffixes window j = false) :
    block.generatedEnd < window.length := by
  apply Nat.lt_of_le_of_ne (lookup_generatedEnd_le hordered hj hlookup)
  intro heq
  simp [staysOpen, hlookup, heq] at hclosed

theorem lookup_append_of_closed (hordered : suffixes.Ordered) (more : Tokens) {j : Nat}
    (hj : j < window.length) (hclosed : staysOpen suffixes window j = false) :
    lookup suffixes (window ++ more) j = lookup suffixes window j := by
  have hpattern : window.drop j ≠ [] := by simpa using hj
  rw [lookup, lookup, List.drop_append_of_le_length (Nat.le_of_lt hj),
    SuffixArray.longestOccurrence_append_of_closed hordered more hpattern]
  intro found hfound
  have hlookup : lookup suffixes window j = some ⟨found.position, j, found.length⟩ := by
    rw [lookup, hfound, Option.map_some]
  have hend := lookup_generatedEnd_lt hordered (Nat.le_of_lt hj) hlookup hclosed
  simp only [Block.generatedEnd] at hend
  rw [List.length_drop]
  omega

theorem staysOpen_append_of_closed (hordered : suffixes.Ordered) (more : Tokens) {j : Nat}
    (hj : j < window.length) (hclosed : staysOpen suffixes window j = false) :
    staysOpen suffixes (window ++ more) j = false := by
  rw [staysOpen, lookup_append_of_closed hordered more hj hclosed]
  cases hlookup : lookup suffixes window j with
  | none => rfl
  | some block =>
      have hend := lookup_generatedEnd_lt hordered (Nat.le_of_lt hj) hlookup hclosed
      rw [Option.any_some, beq_eq_false_iff_ne, List.length_append]
      omega

theorem regrow_append_of_open (hordered : suffixes.Ordered) (more : Tokens) {j : Nat}
    {known : Block} (hj : j < window.length)
    (hknown : lookup suffixes window j = some known)
    (hopen : staysOpen suffixes window j = true) :
    regrow suffixes (window ++ more) j known = lookup suffixes (window ++ more) j := by
  obtain ⟨found, hfound, rfl⟩ := Option.map_eq_some_iff.1 hknown
  have hanswers := SuffixArray.longestOccurrenceFrom_answers hordered (window.drop j) 0
  have hlongest : found.Longest suffixes.text (window.drop j) 0 := by
    rw [SuffixArray.longestOccurrence] at hfound
    rwa [hfound] at hanswers
  have hreaches : j + found.length = window.length := by
    simpa [staysOpen, hknown, Block.generatedEnd] using hopen
  have hdrop : (window ++ more).drop j = window.drop j ++ more :=
    List.drop_append_of_le_length (Nat.le_of_lt hj)
  have hgrown : found.length +
      Tokens.agreement (suffixes.text.drop (found.position + found.length))
        ((window ++ more).drop (j + found.length)) =
      Tokens.agreement (suffixes.text.drop found.position) (window.drop j ++ more) := by
    have hle : found.length ≤
        Tokens.agreement (suffixes.text.drop found.position) (window.drop j ++ more) := by
      rw [hlongest.length_eq]
      exact Tokens.agreement_le_append_right _ _ _
    rw [← List.drop_drop, ← List.drop_drop, hdrop, Tokens.agreement_drop hle]
    omega
  simp only [regrow, Block.referenceEnd, Block.generatedEnd, hgrown]
  split
  · rename_i hend
    have hwhole : Tokens.agreement (suffixes.text.drop found.position)
        (window.drop j ++ more) = (window.drop j ++ more).length := by
      rw [← hdrop, List.length_drop, hdrop]
      omega
    rw [lookup, hdrop, SuffixArray.longestOccurrence_append_of_open hordered more hfound
      (by rw [List.length_drop]; omega) hwhole, hwhole]
    rfl
  · rfl

theorem settle_eq {state : Array (Option Block) × List Nat} {j : Nat}
    (hknown : ∀ known, state.1[j]? = some (some known) →
      regrow suffixes window j known = lookup suffixes window j) :
    settle suffixes window state j =
      (if j < state.1.size then state.1.setIfInBounds j (lookup suffixes window j)
        else state.1.push (lookup suffixes window j),
        if staysOpen suffixes window j then state.2 ++ [j] else state.2) := by
  unfold settle
  cases hjoin : (state.1[j]?).join with
  | none => rfl
  | some known =>
      dsimp only
      rw [hknown known (Option.join_eq_some_iff.1 hjoin)]
      rfl

theorem foldl_settle_open {stale : List Nat} {starts : Array (Option Block)}
    (opens : List Nat) (hsize : ∀ j ∈ stale, j < starts.size) (hnodup : stale.Nodup)
    (hknown : ∀ j ∈ stale, ∀ known, starts[j]? = some (some known) →
      regrow suffixes window j known = lookup suffixes window j) :
    let settled := stale.foldl (settle suffixes window) (starts, opens)
    settled.1.size = starts.size ∧
      (∀ i, settled.1[i]? =
        if i ∈ stale then some (lookup suffixes window i) else starts[i]?) ∧
      settled.2 = opens ++ stale.filter (staysOpen suffixes window) := by
  induction stale generalizing starts opens with
  | nil => simp
  | cons j stale ih =>
      obtain ⟨hnot, hnodup⟩ := List.nodup_cons.1 hnodup
      rw [List.foldl_cons, settle_eq (hknown j List.mem_cons_self),
        if_pos (hsize j List.mem_cons_self)]
      have hsizeLater : ∀ i ∈ stale,
          i < (starts.setIfInBounds j (lookup suffixes window j)).size := by
        intro i hi
        simpa using hsize i (List.mem_cons_of_mem _ hi)
      have hknownLater : ∀ i ∈ stale, ∀ known,
          (starts.setIfInBounds j (lookup suffixes window j))[i]? = some (some known) →
            regrow suffixes window i known = lookup suffixes window i := by
        intro i hi known hget
        have hne : j ≠ i := fun heq => hnot (heq ▸ hi)
        rw [Array.getElem?_setIfInBounds_ne hne] at hget
        exact hknown i (List.mem_cons_of_mem _ hi) known hget
      obtain ⟨hsize', hentries, hopens⟩ :=
        ih (if staysOpen suffixes window j then opens ++ [j] else opens) hsizeLater hnodup
          hknownLater
      refine ⟨by simpa using hsize', ?_, ?_⟩
      · intro i
        rw [hentries i]
        by_cases hij : i = j
        · subst i
          simp [hnot, hsize j List.mem_cons_self]
        · simp [hij, Array.getElem?_setIfInBounds_ne (Ne.symm hij)]
      · rw [hopens, List.filter_cons]
        split <;> simp

variable (suffixes window) in
theorem foldl_settle_new (count : Nat) {first : Nat} {starts : Array (Option Block)}
    (opens : List Nat) (hsize : starts.size = first) :
    let settled := (List.range' first count).foldl (settle suffixes window) (starts, opens)
    settled.1.size = first + count ∧
      (∀ i, settled.1[i]? =
        if first ≤ i ∧ i < first + count then some (lookup suffixes window i)
        else starts[i]?) ∧
      settled.2 = opens ++ (List.range' first count).filter (staysOpen suffixes window) := by
  induction count generalizing first starts opens with
  | zero =>
      refine ⟨hsize, ?_, by simp⟩
      intro i
      rw [if_neg (by omega)]
      rfl
  | succ count ih =>
      rw [List.range'_succ, List.foldl_cons, settle_eq (by simp [hsize])]
      dsimp only
      rw [if_neg (Nat.not_lt.2 (Nat.le_of_eq hsize))]
      have hpushed : (starts.push (lookup suffixes window first)).size = first + 1 := by
        rw [Array.size_push, hsize]
      obtain ⟨hsize', hentries, hopens⟩ :=
        ih (if staysOpen suffixes window first then opens ++ [first] else opens) hpushed
      refine ⟨by omega, ?_, ?_⟩
      · intro i
        rw [hentries i, Array.getElem?_push, hsize]
        by_cases hi : i = first
        · subst i
          simp
        · by_cases hle : first + 1 ≤ i ∧ i < first + 1 + count
          · rw [if_pos hle, if_pos (by omega)]
          · rw [if_neg hle, if_neg hi, if_neg (by omega)]
      · rw [hopens, List.filter_cons]
        split <;> simp

theorem Covers.closed {table : MatchTable} (hcovers : table.Covers suffixes) {j : Nat}
    (hj : j < table.synced.length) (hnot : j ∉ table.openStarts) :
    staysOpen suffixes table.synced j = false := by
  rw [hcovers.open_iff j] at hnot
  exact (Bool.not_eq_true _).mp fun hopen => hnot ⟨hj, hopen⟩

theorem Covers.foldl_settle {table : MatchTable} (hordered : suffixes.Ordered)
    (hcovers : table.Covers suffixes) (more : Tokens) :
    let window := table.synced ++ more
    let new := List.range' table.synced.length more.length
    let settled := (table.openStarts ++ new).foldl (settle suffixes window) (table.starts, [])
    settled.1.size = window.length ∧
      (∀ i < window.length, settled.1[i]? =
        if i ∈ table.openStarts ∨ table.synced.length ≤ i then some (lookup suffixes window i)
        else table.starts[i]?) ∧
      settled.2 = table.openStarts.filter (staysOpen suffixes window) ++
        new.filter (staysOpen suffixes window) := by
  dsimp only
  have hsize : ∀ j ∈ table.openStarts, j < table.starts.size := by
    intro j hj
    rw [hcovers.size_eq]
    exact ((hcovers.open_iff j).1 hj).1
  have hknown : ∀ j ∈ table.openStarts, ∀ known, table.starts[j]? = some (some known) →
      regrow suffixes (table.synced ++ more) j known =
        lookup suffixes (table.synced ++ more) j := by
    intro j hj known hget
    obtain ⟨hlt, hopen⟩ := (hcovers.open_iff j).1 hj
    rw [hcovers.entry j hlt, Option.some.injEq] at hget
    exact regrow_append_of_open hordered more hlt hget hopen
  have hold := foldl_settle_open [] hsize hcovers.nodup hknown
  rw [List.foldl_append]
  generalize table.openStarts.foldl (settle suffixes (table.synced ++ more))
    (table.starts, []) = old at hold
  obtain ⟨starts, opens⟩ := old
  obtain ⟨holdSize, holdEntries, holdOpens⟩ := hold
  dsimp only at holdSize holdEntries holdOpens
  rw [hcovers.size_eq] at holdSize
  obtain ⟨hnewSize, hnewEntries, hnewOpens⟩ :=
    foldl_settle_new suffixes (table.synced ++ more) more.length opens holdSize
  rw [List.length_append]
  refine ⟨hnewSize, ?_, ?_⟩
  · intro i hi
    rw [hnewEntries]
    by_cases hbehind : table.synced.length ≤ i
    · rw [if_pos ⟨hbehind, hi⟩, if_pos (.inr hbehind)]
    · rw [if_neg fun hin => hbehind hin.1, holdEntries]
      simp only [hbehind, or_false]
  · rw [hnewOpens, holdOpens, List.nil_append]

theorem Covers.append {table : MatchTable} (hordered : suffixes.Ordered)
    (hcovers : table.Covers suffixes) (more : Tokens) :
    let window := table.synced ++ more
    let settled := (table.openStarts ++
      Tokens.positions table.synced.length window.length).foldl (settle suffixes window)
        (table.starts, [])
    Covers { starts := settled.1, openStarts := settled.2, synced := window } suffixes := by
  have hcount : (table.synced ++ more).length - table.synced.length = more.length := by simp
  have hsettled := hcovers.foldl_settle hordered more
  dsimp only at hsettled ⊢
  rw [Tokens.positions, hcount]
  obtain ⟨hsize, hentries, hopens⟩ := hsettled
  refine ⟨hsize, ?_, ?_, ?_⟩
  · intro j hj
    refine (hentries j hj).trans ?_
    by_cases hanew : j ∈ table.openStarts ∨ table.synced.length ≤ j
    · rw [if_pos hanew]
    · obtain ⟨hnot, hbehind⟩ := not_or.1 hanew
      have hbefore := Nat.lt_of_not_le hbehind
      rw [if_neg hanew, hcovers.entry j hbefore,
        lookup_append_of_closed hordered more hbefore (hcovers.closed hbefore hnot)]
  · dsimp only
    rw [hopens, List.nodup_append]
    refine ⟨hcovers.nodup.filter _, (List.nodup_range' ..).filter _, ?_⟩
    intro i hi j hj heq
    subst heq
    have hbefore := ((hcovers.open_iff i).1 (List.mem_filter.1 hi).1).1
    have hbehind := List.mem_range'_1.1 (List.mem_filter.1 hj).1
    omega
  · intro j
    dsimp only
    rw [hopens, List.mem_append, List.mem_filter, List.mem_filter, List.mem_range'_1,
      List.length_append]
    constructor
    · rintro (⟨hopen, hstays⟩ | ⟨hnew, hstays⟩)
      · have hbefore := ((hcovers.open_iff j).1 hopen).1
        exact ⟨by omega, hstays⟩
      · exact ⟨hnew.2, hstays⟩
    · intro hgiven
      obtain ⟨hj, hstays⟩ := hgiven
      by_cases hbehind : table.synced.length ≤ j
      · exact .inr ⟨⟨hbehind, hj⟩, hstays⟩
      · have hbefore : j < table.synced.length := Nat.lt_of_not_le hbehind
        refine .inl ⟨?_, hstays⟩
        by_contra hnot
        rw [staysOpen_append_of_closed hordered more hbefore (hcovers.closed hbefore hnot)]
          at hstays
        exact Bool.false_ne_true hstays

/-- However the output went on or was rewritten, the table is complete for it. -/
theorem Covers.advance {table : MatchTable} (hordered : suffixes.Ordered)
    (hcovers : table.Covers suffixes) (window : Tokens) :
    (table.advance suffixes window).Covers suffixes ∧
      (table.advance suffixes window).synced = window := by
  unfold MatchTable.advance
  generalize hbase : (if table.synced.isPrefixOf window then table else empty) = base
  have hbaseCovers : base.Covers suffixes := by
    rw [← hbase]
    split
    · exact hcovers
    · exact covers_empty suffixes
  have hstarts : base.synced <+: window := by
    rw [← hbase]
    split
    · rename_i hstarts
      exact List.isPrefixOf_iff_prefix.1 hstarts
    · exact List.nil_prefix
  obtain ⟨more, rfl⟩ := hstarts
  dsimp only
  by_cases hsame : (base.synced ++ more).length = base.synced.length
  · rw [if_pos hsame]
    have hnil : more = [] := by simpa using hsame
    exact ⟨hbaseCovers, by simp [hnil]⟩
  · rw [if_neg hsame]
    exact ⟨hbaseCovers.append hordered more, rfl⟩

theorem mem_drop_zipIdx {entries : List (Option Block)} {first j : Nat}
    {entry : Option Block} :
    (entry, j) ∈ entries.zipIdx.drop first ↔ first ≤ j ∧ entries[j]? = some entry := by
  rw [List.mem_iff_getElem?]
  simp only [List.getElem?_drop, List.getElem?_zipIdx, Option.map_eq_some_iff, Prod.mk.injEq]
  constructor
  · intro hgiven
    obtain ⟨k, _, hget, rfl, rfl⟩ := hgiven
    exact ⟨by omega, by simpa using hget⟩
  · intro hgiven
    obtain ⟨hle, hget⟩ := hgiven
    exact ⟨j - first, entry, by simpa [Nat.add_sub_cancel' hle] using hget, rfl, by omega⟩

theorem candidate_lookup (hordered : suffixes.Ordered) (referenceFrom j : Nat) :
    candidate suffixes window referenceFrom (lookup suffixes window j, j) =
      (suffixes.longestOccurrenceFrom (window.drop j) referenceFrom).map fun found =>
        ⟨found.position, j, found.length⟩ := by
  have hall := SuffixArray.longestOccurrenceFrom_answers hordered (window.drop j) 0
  have hfrom := SuffixArray.longestOccurrenceFrom_answers hordered (window.drop j) referenceFrom
  rw [candidate, lookup, SuffixArray.longestOccurrence]
  cases hfound : suffixes.longestOccurrenceFrom (window.drop j) 0 with
  | none =>
      rw [hfound] at hall
      have hnone : Occurrence.Answers suffixes.text (window.drop j) referenceFrom none :=
        fun p _ => hall p (Nat.zero_le p)
      rw [hfrom.unique hnone]
      rfl
  | some found =>
      rw [hfound] at hall
      simp only [Option.map_some, Option.bind_some]
      split
      · rename_i hle
        have hlater : Occurrence.Answers suffixes.text (window.drop j) referenceFrom
            (some found) := Occurrence.Longest.later hall (Nat.zero_le _) hle
        rw [hfrom.unique hlater]
        rfl
      · rfl

def offers (table : MatchTable) (suffixes : SuffixArray) (region : Region) : List Block :=
  (table.starts.toList.zipIdx.drop region.generatedFrom).filterMap
    (candidate suffixes table.synced region.referenceFrom)

section Offers

variable {table : MatchTable} {region : Region}

theorem Covers.mem_offers (hordered : suffixes.Ordered) (hcovers : table.Covers suffixes)
    {block : Block} :
    block ∈ table.offers suffixes region ↔
      region.generatedFrom ≤ block.generatedStart ∧
        block.generatedStart < table.synced.length ∧
        suffixes.longestOccurrenceFrom (table.synced.drop block.generatedStart)
          region.referenceFrom = some ⟨block.referenceStart, block.length⟩ := by
  rw [offers, List.mem_filterMap]
  constructor
  · intro hgiven
    obtain ⟨⟨entry, j⟩, hmem, hcandidate⟩ := hgiven
    obtain ⟨hfrom, hget⟩ := mem_drop_zipIdx.1 hmem
    rw [Array.getElem?_toList] at hget
    have hj : j < table.synced.length := by
      rw [← hcovers.size_eq]
      exact (Array.getElem?_eq_some_iff.1 hget).1
    rw [hcovers.entry j hj, Option.some.injEq] at hget
    rw [← hget, candidate_lookup hordered, Option.map_eq_some_iff] at hcandidate
    obtain ⟨found, hfound, rfl⟩ := hcandidate
    exact ⟨hfrom, hj, hfound⟩
  · intro hgiven
    obtain ⟨hfrom, hj, hfound⟩ := hgiven
    refine ⟨(lookup suffixes table.synced block.generatedStart, block.generatedStart), ?_, ?_⟩
    · rw [mem_drop_zipIdx, Array.getElem?_toList]
      exact ⟨hfrom, hcovers.entry _ hj⟩
    · rw [candidate_lookup hordered, hfound]
      rfl

theorem Covers.common_of_offer (hordered : suffixes.Ordered)
    (hcovers : table.Covers suffixes) (hreference : region.referenceTo = suffixes.text.length)
    (hgenerated : region.generatedTo = table.synced.length) {block : Block}
    (hoffer : block ∈ table.offers suffixes region) :
    region.Common suffixes.text table.synced block := by
  obtain ⟨hfrom, -, hfound⟩ := (hcovers.mem_offers hordered).1 hoffer
  have hanswers := SuffixArray.longestOccurrenceFrom_answers hordered
    (table.synced.drop block.generatedStart) region.referenceFrom
  rw [hfound] at hanswers
  rw [Region.common_iff, Region.agreementAt_of_ends hreference hgenerated]
  exact ⟨hanswers.start_le, hfrom, hanswers.nonempty, Nat.le_of_eq hanswers.length_eq⟩

theorem Covers.exists_offer (hordered : suffixes.Ordered) (hcovers : table.Covers suffixes)
    (hreference : region.referenceTo = suffixes.text.length)
    (hgenerated : region.generatedTo = table.synced.length) {other : Block}
    (hother : region.Common suffixes.text table.synced other) :
    ∃ block ∈ table.offers suffixes region, block.NotAfter other := by
  rw [Region.common_iff, Region.agreementAt_of_ends hreference hgenerated] at hother
  obtain ⟨hrfrom, hgfrom, hpos, hagree⟩ := hother
  have hanswers := SuffixArray.longestOccurrenceFrom_answers hordered
    (table.synced.drop other.generatedStart) region.referenceFrom
  cases hfound : suffixes.longestOccurrenceFrom (table.synced.drop other.generatedStart)
      region.referenceFrom with
  | none =>
      rw [hfound] at hanswers
      have hzero := hanswers _ hrfrom
      omega
  | some found =>
      rw [hfound] at hanswers
      have hj : other.generatedStart < table.synced.length := by
        have hle := Tokens.agreement_le_right (suffixes.text.drop other.referenceStart)
          (table.synced.drop other.generatedStart)
        rw [List.length_drop] at hle
        omega
      refine ⟨⟨found.position, other.generatedStart, found.length⟩,
        (hcovers.mem_offers hordered).2 ⟨hgfrom, hj, hfound⟩, ?_⟩
      have hfirst := hanswers.first _ hrfrom
      rw [Block.notAfter_iff]
      dsimp only
      omega

/-- The table answers the first common block of every region that runs to the end of both
texts. -/
theorem Covers.longest_first (hordered : suffixes.Ordered) (hcovers : table.Covers suffixes)
    (hsynced : table.synced = window) (region : Region)
    (hreference : region.referenceTo = suffixes.text.length)
    (hgenerated : region.generatedTo = window.length) :
    region.First suffixes.text window (table.longest suffixes window region) := by
  subst hsynced
  have hfold := Block.foldl_preferred region.emptyBlock (table.offers suffixes region)
  constructor
  · rcases List.mem_cons.1 hfold.1 with hempty | hmem
    · exact .inl hempty
    · exact .inr (hcovers.common_of_offer hordered hreference hgenerated hmem)
  · intro other hother
    obtain ⟨block, hmem, hnotAfter⟩ :=
      hcovers.exists_offer hordered hreference hgenerated hother
    exact (hfold.2 block (List.mem_cons_of_mem _ hmem)).trans hnotAfter

end Offers

end MatchTable

end Redraft.Align
