import Redraft.Align.Suffixes
import Redraft.Proofs.Align.TextOrder

namespace Redraft.Align

theorem SortKey.le_iff {a b : SortKey} :
    SortKey.le a b = true ↔ a.1 < b.1 ∨ a.1 = b.1 ∧ a.2 ≤ b.2 := by
  simp [SortKey.le]

theorem SortKey.le_antisymm {a b : SortKey} (hab : SortKey.le a b = true)
    (hba : SortKey.le b a = true) : a = b := by
  rw [SortKey.le_iff] at hab hba
  apply Prod.ext <;> omega

structure KeySort.Lawful (sort : KeySort) : Prop where
  perm : ∀ key order, (sort key order).Perm order
  sorted : ∀ key order, (sort key order).Pairwise fun p q => SortKey.le (key p) (key q) = true

theorem KeySort.merge_lawful : KeySort.merge.Lawful where
  perm key order := List.mergeSort_perm order _
  sorted key order := by
    apply List.pairwise_mergeSort
    · intro p q r hpq hqr
      rw [SortKey.le_iff] at *
      omega
    · intro p q
      rw [Bool.or_eq_true, SortKey.le_iff, SortKey.le_iff]
      omega

namespace Suffixes

variable {key : Nat → SortKey}

/-- Of two positions in the list the later has no smaller rank, and the same rank only if
it has the same key. -/
def InStep (key : Nat → SortKey) (ranks : Array Nat) (p q : Nat) : Prop :=
  ranks.getD p 0 ≤ ranks.getD q 0 ∧ (ranks.getD p 0 = ranks.getD q 0 ↔ key p = key q)

theorem size_rankFrom (ranks : Array Nat) (rank previous : Nat) (order : List Nat) :
    (rankFrom key ranks rank previous order).size = ranks.size := by
  induction order generalizing ranks rank previous with
  | nil => rfl
  | cons p order ih => simp [rankFrom, ih]

theorem rankFrom_of_not_mem {ranks : Array Nat} {rank previous p : Nat} {order : List Nat}
    (h : p ∉ order) : (rankFrom key ranks rank previous order).getD p 0 = ranks.getD p 0 := by
  induction order generalizing ranks rank previous with
  | nil => rfl
  | cons q order ih =>
      rw [List.mem_cons, not_or] at h
      rw [rankFrom, ih h.2]
      simp [Array.getD_eq_getD_getElem?, Ne.symm h.1]

theorem InStep.trans {ranks : Array Nat} {p q r : Nat} (hfirst : InStep key ranks p q)
    (hsecond : InStep key ranks q r) (hpq : SortKey.le (key p) (key q) = true)
    (hqr : SortKey.le (key q) (key r) = true) : InStep key ranks p r := by
  obtain ⟨hle, hiff⟩ := hfirst
  obtain ⟨hle', hiff'⟩ := hsecond
  refine ⟨Nat.le_trans hle hle', ?_⟩
  constructor
  · intro heq
    exact (hiff.1 (by omega)).trans (hiff'.1 (by omega))
  · intro heq
    rw [← heq] at hqr
    have hsame := SortKey.le_antisymm hpq hqr
    exact (hiff.2 hsame).trans (hiff'.2 (hsame.symm.trans heq))

/-- The positions up to `previous` are numbered, those of `order` are still to come. -/
structure Numbered (ranks : Array Nat) (rank previous : Nat) (order : List Nat) : Prop where
  nodup : (previous :: order).Nodup
  size : ∀ p ∈ order, p < ranks.size
  rank_eq : ranks.getD previous 0 = rank

def nextRank (key : Nat → SortKey) (rank previous p : Nat) : Nat :=
  if key p = key previous then rank else rank + 1

theorem rankFrom_cons (ranks : Array Nat) (rank previous p : Nat) (order : List Nat) :
    rankFrom key ranks rank previous (p :: order) =
      rankFrom key (ranks.setIfInBounds p (nextRank key rank previous p))
        (nextRank key rank previous p) p order := rfl

section Numbered

variable {ranks : Array Nat} {rank previous : Nat} {order : List Nat}

theorem Numbered.step {p : Nat} (hnumbered : Numbered ranks rank previous (p :: order))
    (next : Nat) : Numbered (ranks.setIfInBounds p next) next p order where
  nodup := (List.nodup_cons.1 hnumbered.nodup).2
  size := by
    intro q hq
    simpa using hnumbered.size q (List.mem_cons_of_mem _ hq)
  rank_eq := by
    simp [Array.getD_eq_getD_getElem?, hnumbered.size p List.mem_cons_self]

theorem Numbered.rankFrom_eq (key : Nat → SortKey)
    (hnumbered : Numbered ranks rank previous order) :
    (rankFrom key ranks rank previous order).getD previous 0 = rank := by
  rw [rankFrom_of_not_mem (List.nodup_cons.1 hnumbered.nodup).1, hnumbered.rank_eq]

theorem Numbered.inStep (hnumbered : Numbered ranks rank previous order)
    (hsorted : (previous :: order).Pairwise fun p q => SortKey.le (key p) (key q) = true) :
    (previous :: order).Pairwise
      (InStep key (rankFrom key ranks rank previous order)) := by
  induction order generalizing ranks rank previous with
  | nil => simp
  | cons p order ih =>
      obtain ⟨hfirst, hsorted⟩ := List.pairwise_cons.1 hsorted
      have hnext := hnumbered.step (nextRank key rank previous p)
      have hrest := ih hnext hsorted
      have hprevious := hnumbered.rankFrom_eq key
      have hp := hnext.rankFrom_eq key
      rw [rankFrom_cons] at hprevious ⊢
      generalize rankFrom key (ranks.setIfInBounds p (nextRank key rank previous p))
        (nextRank key rank previous p) p order = final at *
      have hhead : InStep key final previous p := by
        rw [InStep, hprevious, hp, nextRank]
        by_cases heq : key p = key previous
        · rw [if_pos heq]
          exact ⟨Nat.le_refl _, iff_of_true rfl heq.symm⟩
        · rw [if_neg heq]
          exact ⟨Nat.le_succ _, iff_of_false (Nat.ne_of_lt (Nat.lt_succ_self _))
            fun hsame => heq hsame.symm⟩
      refine List.pairwise_cons.2 ⟨?_, hrest⟩
      intro q hq
      rcases List.mem_cons.1 hq with rfl | hq
      · exact hhead
      · exact hhead.trans ((List.pairwise_cons.1 hrest).1 q hq)
          (hfirst p List.mem_cons_self) ((List.pairwise_cons.1 hsorted).1 q hq)

theorem nextRank_le (key : Nat → SortKey) (rank previous p : Nat) :
    nextRank key rank previous p ≤ rank + 1 := by
  unfold nextRank
  split
  · exact Nat.le_succ rank
  · exact Nat.le_refl _

theorem Numbered.last_le {last : Nat} (hnumbered : Numbered ranks rank previous order)
    (hlast : (previous :: order).getLast? = some last) :
    (rankFrom key ranks rank previous order).getD last 0 ≤ rank + order.length := by
  induction order generalizing ranks rank previous with
  | nil =>
      obtain rfl : previous = last := by simpa using hlast
      exact Nat.le_of_eq (hnumbered.rankFrom_eq key)
  | cons p order ih =>
      rw [List.getLast?_cons_cons] at hlast
      rw [rankFrom_cons, List.length_cons]
      have hrest := ih (hnumbered.step (nextRank key rank previous p)) hlast
      have hrise := nextRank_le key rank previous p
      omega

theorem Numbered.strict {last : Nat} (hnumbered : Numbered ranks rank previous order)
    (hlast : (previous :: order).getLast? = some last)
    (htop : rank + order.length ≤ (rankFrom key ranks rank previous order).getD last 0) :
    (previous :: order).Pairwise fun p q =>
      (rankFrom key ranks rank previous order).getD p 0 <
        (rankFrom key ranks rank previous order).getD q 0 := by
  induction order generalizing ranks rank previous with
  | nil => simp
  | cons p order ih =>
      have hnext := hnumbered.step (nextRank key rank previous p)
      have hprevious := hnumbered.rankFrom_eq key
      have hp := hnext.rankFrom_eq key
      rw [List.getLast?_cons_cons] at hlast
      rw [rankFrom_cons] at hprevious htop ⊢
      rw [List.length_cons] at htop
      have hbound : (rankFrom key (ranks.setIfInBounds p (nextRank key rank previous p))
          (nextRank key rank previous p) p order).getD last 0 ≤
            nextRank key rank previous p + order.length := hnext.last_le hlast
      have hrise := nextRank_le key rank previous p
      have hrest := ih hnext hlast (by omega)
      refine List.pairwise_cons.2 ⟨?_, hrest⟩
      intro q hq
      rcases List.mem_cons.1 hq with rfl | hq
      · omega
      · have hpq := (List.pairwise_cons.1 hrest).1 q hq
        omega

end Numbered

theorem le_iff_of_inStep {ranks : Array Nat} {order : List Nat}
    (hstep : order.Pairwise (InStep key ranks))
    (hsorted : order.Pairwise fun p q => SortKey.le (key p) (key q) = true) {p q : Nat}
    (hp : p ∈ order) (hq : q ∈ order) :
    ranks.getD p 0 ≤ ranks.getD q 0 ↔ SortKey.le (key p) (key q) = true := by
  have hboth := hstep.and hsorted
  refine List.Pairwise.forall_of_forall_of_flip
    (R := fun p q => ranks.getD p 0 ≤ ranks.getD q 0 ↔ SortKey.le (key p) (key q) = true)
    ?_ (hboth.imp ?_) (hboth.imp ?_) hp hq
  · intro p _
    simp [SortKey.le_iff]
  · intro p q hgiven
    obtain ⟨⟨hle, -⟩, hkey⟩ := hgiven
    exact iff_of_true hle hkey
  · intro p q hgiven
    obtain ⟨⟨hle, hiff⟩, hkey⟩ := hgiven
    constructor
    · intro hback
      rw [hiff.1 (Nat.le_antisymm hle hback), SortKey.le_iff]
      exact .inr ⟨rfl, Nat.le_refl _⟩
    · intro hback
      exact Nat.le_of_eq (hiff.2 (SortKey.le_antisymm hkey hback)).symm

/-- What the ranks of a sorted order tell: how keys compare, and from the last of them
whether all keys differ. -/
structure Ranked (key : Nat → SortKey) (size : Nat) (ranks : Array Nat) (order : List Nat) :
    Prop where
  size_eq : ranks.size = size
  le_iff : ∀ p < size, ∀ q < size,
    ranks.getD p 0 ≤ ranks.getD q 0 ↔ SortKey.le (key p) (key q) = true
  distinct : allDistinct ranks size order = true →
    order.Pairwise fun p q => ranks.getD p 0 < ranks.getD q 0

theorem ranks_ranked {size : Nat} {order : List Nat} (hperm : order.Perm (List.range size))
    (hsorted : order.Pairwise fun p q => SortKey.le (key p) (key q) = true) :
    Ranked key size (ranks key size order) order := by
  have hnodup : order.Nodup := hperm.nodup_iff.2 List.nodup_range
  have hmem : ∀ p, p ∈ order ↔ p < size := fun p => by rw [hperm.mem_iff, List.mem_range]
  have hlength : order.length = size := by simpa using hperm.length_eq
  cases order with
  | nil =>
      obtain rfl : size = 0 := by simpa using hlength.symm
      exact ⟨rfl, fun p hp => absurd hp (Nat.not_lt_zero p), fun _ => .nil⟩
  | cons first order =>
      have hnumbered : Numbered (Array.replicate size 0) 0 first order := by
        refine ⟨hnodup, ?_, ?_⟩
        · intro p hp
          simpa using (hmem p).1 (List.mem_cons_of_mem _ hp)
        · simp [Array.getD_eq_getD_getElem?, (hmem first).1 List.mem_cons_self]
      rw [ranks]
      refine ⟨by simp [size_rankFrom], ?_, ?_⟩
      · intro p hp q hq
        exact le_iff_of_inStep (hnumbered.inStep hsorted) hsorted ((hmem p).2 hp)
          ((hmem q).2 hq)
      · intro hdistinct
        obtain ⟨last, hlast⟩ : ∃ last, (first :: order).getLast? = some last :=
          ⟨_, List.getLast?_eq_some_getLast (List.cons_ne_nil first order)⟩
        apply hnumbered.strict hlast
        rw [allDistinct, hlast, Option.elim_some, decide_eq_true_iff] at hdistinct
        rw [List.length_cons] at hlength
        omega

variable {sort : KeySort} {text : Tokens}

def front (text : Tokens) (span p : Nat) : Tokens := (text.drop p).take span

/-- What holds between two rounds: the positions stand in the order of the first `span`
tokens of their suffixes, and the ranks compare the same tokens. -/
structure Sorted (text : Tokens) (span : Nat) (ranks : Array Nat) (order : List Nat) :
    Prop where
  perm : order.Perm (List.range text.length)
  size_eq : ranks.size = text.length
  le_iff : ∀ p < text.length, ∀ q < text.length,
    ranks.getD p 0 ≤ ranks.getD q 0 ↔ Tokens.NotAbove (front text span p) (front text span q)
  fronts : order.Pairwise fun p q => Tokens.NotAbove (front text span p) (front text span q)
  distinct : allDistinct ranks text.length order = true →
    order.Pairwise fun p q => ranks.getD p 0 < ranks.getD q 0

theorem sorted_of_key {span : Nat} {order : List Nat}
    (hperm : order.Perm (List.range text.length))
    (hsorted : order.Pairwise fun p q => SortKey.le (key p) (key q) = true)
    (hkey : ∀ p < text.length, ∀ q < text.length, SortKey.le (key p) (key q) = true ↔
      Tokens.NotAbove (front text span p) (front text span q)) :
    Sorted text span (ranks key text.length order) order := by
  have hranked := ranks_ranked hperm hsorted
  refine ⟨hperm, hranked.size_eq, ?_, ?_, hranked.distinct⟩
  · intro p hp q hq
    rw [hranked.le_iff p hp q hq, hkey p hp q hq]
  · refine hsorted.imp_of_mem ?_
    intro p q hp hq hle
    rw [hperm.mem_iff, List.mem_range] at hp hq
    exact (hkey p hp q hq).1 hle

theorem Sorted.rank_lt_iff {span p q : Nat} {ranks : Array Nat} {order : List Nat}
    (sorted : Sorted text span ranks order) (hp : p < text.length) (hq : q < text.length) :
    ranks.getD p 0 < ranks.getD q 0 ↔ front text span p < front text span q := by
  have hback := sorted.le_iff q hq p hp
  rw [Tokens.NotAbove] at hback
  rw [← Nat.not_le, hback, Classical.not_not]

theorem Sorted.rank_eq_iff {span p q : Nat} {ranks : Array Nat} {order : List Nat}
    (sorted : Sorted text span ranks order) (hp : p < text.length) (hq : q < text.length) :
    ranks.getD p 0 = ranks.getD q 0 ↔ front text span p = front text span q := by
  constructor
  · intro heq
    exact ((sorted.le_iff p hp q hq).1 (Nat.le_of_eq heq)).antisymm
      ((sorted.le_iff q hq p hp).1 (Nat.le_of_eq heq.symm))
  · intro heq
    apply Nat.le_antisymm
    · rw [sorted.le_iff p hp q hq, heq]
      exact .refl _
    · rw [sorted.le_iff q hq p hp, heq]
      exact .refl _

theorem front_of_length_le {span p : Nat} (h : text.length ≤ p) : front text span p = [] := by
  rw [front, List.drop_eq_nil_of_le h, List.take_nil]

theorem front_ne_nil {span p : Nat} (hspan : 0 < span) (hp : p < text.length) :
    front text span p ≠ [] := by
  intro hnil
  have := congrArg List.length hnil
  simp [front] at this
  omega

theorem Sorted.doubledKey_le_iff {span p q : Nat} {ranks : Array Nat} {order : List Nat}
    (sorted : Sorted text span ranks order) (hspan : 0 < span) (hp : p < text.length)
    (hq : q < text.length) :
    SortKey.le (doubledKey ranks span p) (doubledKey ranks span q) = true ↔
      Tokens.NotAbove (front text (span + span) p) (front text (span + span) q) := by
  have hbehind : (ranks[p + span]?).elim 0 (· + 1) ≤ (ranks[q + span]?).elim 0 (· + 1) ↔
      Tokens.NotAbove (front text span (p + span)) (front text span (q + span)) := by
    rcases Nat.lt_or_ge (p + span) text.length with hpin | hpout
    · rcases Nat.lt_or_ge (q + span) text.length with hqin | hqout
      · have hle := sorted.le_iff _ hpin _ hqin
        rw [← sorted.size_eq] at hpin hqin
        simpa [Array.getD_eq_getD_getElem?, hpin, hqin] using hle
      · have hnil : front text span (q + span) = [] := front_of_length_le hqout
        obtain ⟨token, tokens, hcons⟩ := List.exists_cons_of_ne_nil (front_ne_nil hspan hpin)
        rw [← sorted.size_eq] at hpin hqout
        simp [hpin, hqout, hnil, hcons]
    · rw [front_of_length_le hpout]
      rw [← sorted.size_eq] at hpout
      simp [hpout]
  rw [SortKey.le_iff, front, front, Tokens.take_add_notAbove, List.drop_drop, List.drop_drop]
  exact or_congr (sorted.rank_lt_iff hp hq)
    (and_congr (sorted.rank_eq_iff hp hq) hbehind)

theorem drop_lt_of_front_lt {span p q : Nat} (h : front text span p < front text span q) :
    text.drop p < text.drop q := by
  have hwhole (r : Nat) : front text (span + text.length) r = text.drop r :=
    List.take_of_length_le (by rw [List.length_drop]; omega)
  have hnotAbove : Tokens.NotAbove (front text (span + text.length) p)
      (front text (span + text.length) q) := Tokens.take_add_notAbove.2 (.inl h)
  rw [hwhole, hwhole] at hnotAbove
  apply hnotAbove.lt_of_ne
  intro heq
  rw [front, front, heq] at h
  exact List.lt_irrefl _ h

theorem Sorted.drop_lt {span : Nat} {ranks : Array Nat} {order : List Nat}
    (sorted : Sorted text span ranks order)
    (hdone : text.length ≤ span ∨ allDistinct ranks text.length order = true) :
    order.Pairwise fun p q => text.drop p < text.drop q := by
  have hmem : ∀ p ∈ order, p < text.length := fun p hp =>
    List.mem_range.1 (sorted.perm.mem_iff.1 hp)
  rcases hdone with hlong | hdistinct
  · have hnodup : order.Nodup := sorted.perm.nodup_iff.2 List.nodup_range
    refine (sorted.fronts.and hnodup).imp_of_mem ?_
    intro p q hp hq hpq
    have hwhole (r : Nat) : front text span r = text.drop r :=
      List.take_of_length_le (by rw [List.length_drop]; omega)
    rw [hwhole, hwhole] at hpq
    apply hpq.1.lt_of_ne
    intro heq
    have hlength := congrArg List.length heq
    rw [List.length_drop, List.length_drop] at hlength
    have := hmem p hp
    have := hmem q hq
    have := hpq.2
    omega
  · refine (sorted.distinct hdistinct).imp_of_mem ?_
    intro p q hp hq hlt
    exact drop_lt_of_front_lt ((sorted.rank_lt_iff (hmem p hp) (hmem q hq)).1 hlt)

theorem Sorted.refine {round : Nat} {ranks : Array Nat} {order : List Nat}
    (hsort : sort.Lawful) (sorted : Sorted text (Nat.pow 2 round) ranks order) :
    (refine sort text.length round ranks order).Perm (List.range text.length) ∧
      (refine sort text.length round ranks order).Pairwise fun p q =>
        text.drop p < text.drop q := by
  fun_induction Suffixes.refine sort text.length round ranks order with
  | case1 round ranks order tied key order' ih =>
      apply ih
      have hspan : Nat.pow 2 (round + 1) = Nat.pow 2 round + Nat.pow 2 round :=
        Nat.mul_two _
      rw [hspan]
      apply sorted_of_key ((hsort.perm key order).trans sorted.perm) (hsort.sorted key order)
      intro p hp q hq
      exact sorted.doubledKey_le_iff (Nat.two_pow_pos round) hp hq
  | case2 round ranks order htied =>
      refine ⟨sorted.perm, sorted.drop_lt ?_⟩
      by_cases hshort : Nat.pow 2 round < text.length
      · refine .inr (Classical.byContradiction fun hdistinct => htied ⟨hshort, ?_⟩)
        exact (Bool.not_eq_true _).mp hdistinct
      · exact .inl (Nat.le_of_not_lt hshort)

def tokenKey (text : Tokens) (p : Nat) : SortKey := (text.toArray.getD p 0, 0)

theorem tokenKey_le_iff {p q : Nat} (hp : p < text.length) (hq : q < text.length) :
    SortKey.le (tokenKey text p) (tokenKey text q) = true ↔
      Tokens.NotAbove (front text 1 p) (front text 1 q) := by
  have hone (r : Nat) (hr : r < text.length) : front text 1 r = [text[r]] := by
    rw [front, List.drop_eq_getElem_cons hr, List.take_succ_cons, List.take_zero]
  rw [SortKey.le_iff, hone p hp, hone q hq, Tokens.cons_notAbove_cons]
  simp [tokenKey, Array.getD_eq_getD_getElem?, hp, hq]

/-- Whatever the sort does with equal keys, the positions come out in the order of their
suffixes. -/
theorem order_sorted (hsort : sort.Lawful) (text : Tokens) :
    (order sort text).Perm (List.range text.length) ∧
      (order sort text).Pairwise fun p q => text.drop p < text.drop q := by
  apply Sorted.refine hsort
  apply sorted_of_key (hsort.perm (tokenKey text) _) (hsort.sorted (tokenKey text) _)
  intro p hp q hq
  exact tokenKey_le_iff hp hq

end Suffixes

end Redraft.Align
