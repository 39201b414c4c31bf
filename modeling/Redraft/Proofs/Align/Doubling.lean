import Mathlib.Logic.Relation
import Redraft.Proofs.Align.SuffixSearch

/-!
The rounds of prefix doubling, where nothing but the ranks decides whether another round
follows and every sort may leave equal keys as it likes. The rounds come to an end all the
same: suffixes differ in length, so once a round compares whole suffixes none are tied. They
end with the one order in which the suffixes increase.
-/

namespace Redraft.Align

/-- Every position of the text once, in strictly increasing order of the suffixes. -/
structure InSuffixOrder (text : Tokens) (order : List Nat) : Prop where
  perm : order.Perm (List.range text.length)
  increasing : order.Pairwise fun p q => text.drop p < text.drop q

theorem InSuffixOrder.unique {text : Tokens} {order order' : List Nat}
    (h : InSuffixOrder text order) (h' : InSuffixOrder text order') : order = order' := by
  refine List.Perm.eq_of_pairwise ?_ h.increasing h'.increasing (h.perm.trans h'.perm.symm)
  intro p q _ _ hlt hgt
  exact absurd hgt (List.lt_asymm hlt)

theorem SuffixArray.starts_buildWith {sort : KeySort} (hsort : sort.Lawful) (text : Tokens) :
    (buildWith sort text).starts = Suffixes.order sort text := by
  rw [starts, toList_buildWith hsort, List.map_map]
  exact List.map_id _

/-- Merge sort after the positions were turned round, so that equal keys come out in the
opposite order. -/
def KeySort.backwards : KeySort := fun key order => KeySort.merge key order.reverse

theorem KeySort.backwards_lawful : KeySort.backwards.Lawful where
  perm key order := (KeySort.merge_lawful.perm key order.reverse).trans order.reverse_perm
  sorted key order := KeySort.merge_lawful.sorted key order.reverse

namespace Suffixes

structure SortsTo (key : Nat → SortKey) (before after : List Nat) : Prop where
  perm : after.Perm before
  sorted : after.Pairwise fun p q => SortKey.le (key p) (key q) = true

theorem sortsTo_sort {sort : KeySort} (hsort : sort.Lawful) (key : Nat → SortKey)
    (order : List Nat) : SortsTo key order (sort key order) :=
  ⟨hsort.perm key order, hsort.sorted key order⟩

/-- What one round hands to the next: the ranks compare `span` tokens of each suffix. -/
structure Stage where
  span : Nat
  rankOf : Array Nat
  order : List Nat

namespace Stage

def ranked (key : Nat → SortKey) (size span : Nat) (order : List Nat) : Stage :=
  ⟨span, ranks key size order, order⟩

inductive IsFirst (text : Tokens) : Stage → Prop where
  | sorted {order : List Nat} (hsorts : SortsTo (tokenKey text) (List.range text.length) order) :
      IsFirst text (ranked (tokenKey text) text.length 1 order)

def Settled (size : Nat) (stage : Stage) : Prop :=
  allDistinct stage.rankOf size stage.order = true

/-- While suffixes are tied, the positions are sorted again by twice as many tokens. -/
inductive Round (size : Nat) (stage : Stage) : Stage → Prop where
  | sorted {order : List Nat} (htied : ¬ stage.Settled size)
      (hsorts : SortsTo (doubledKey stage.rankOf stage.span) stage.order order) :
      Round size stage
        (ranked (doubledKey stage.rankOf stage.span) size (2 * stage.span) order)

abbrev Rounds (size : Nat) : Stage → Stage → Prop := Relation.ReflTransGen (Round size)

/-- However the rounds from here sort, they do not go on for ever. -/
def Ends (size : Nat) : Stage → Prop := Acc fun later earlier => Round size earlier later

structure Sound (text : Tokens) (stage : Stage) : Prop where
  span_pos : 0 < stage.span
  sorted : Sorted text stage.span stage.rankOf stage.order

section Sound

variable {text : Tokens} {stage next : Stage}

theorem IsFirst.sound (hfirst : IsFirst text stage) : stage.Sound text := by
  obtain ⟨hsorts⟩ := hfirst
  refine ⟨Nat.one_pos, ?_⟩
  exact sorted_of_key hsorts.perm hsorts.sorted fun _ hp _ hq => tokenKey_le_iff hp hq

theorem Round.sound (hround : Round text.length stage next) (hsound : stage.Sound text) :
    next.Sound text := by
  obtain ⟨-, hsorts⟩ := hround
  refine ⟨Nat.mul_pos Nat.two_pos hsound.span_pos, ?_⟩
  apply sorted_of_key (hsorts.perm.trans hsound.sorted.perm) hsorts.sorted
  intro p hp q hq
  dsimp only [ranked]
  rw [Nat.two_mul]
  exact hsound.sorted.doubledKey_le_iff hsound.span_pos hp hq

theorem Sound.after (hsound : stage.Sound text) {last : Stage}
    (hrounds : Rounds text.length stage last) : last.Sound text := by
  induction hrounds with
  | refl => exact hsound
  | tail _ hround ih => exact hround.sound ih

theorem Sound.inSuffixOrder (hsound : stage.Sound text) (hsettled : stage.Settled text.length) :
    InSuffixOrder text stage.order :=
  ⟨hsound.sorted.perm, hsound.sorted.drop_lt (.inr hsettled)⟩

end Sound

end Stage

theorem length_le_of_rising {rank : Nat → Nat} {p : Nat} {order : List Nat}
    (hrising : (p :: order).Pairwise fun p q => rank p < rank q) :
    rank p + order.length ≤ rank ((p :: order).getLast (List.cons_ne_nil p order)) := by
  induction order generalizing p with
  | nil => exact Nat.le_refl _
  | cons q order ih =>
      obtain ⟨hfirst, hrest⟩ := List.pairwise_cons.1 hrising
      have hlt := hfirst q List.mem_cons_self
      have hle := ih hrest
      rw [List.getLast_cons (List.cons_ne_nil q order), List.length_cons]
      omega

theorem Sorted.allDistinct_of_long {text : Tokens} {span : Nat} {ranks : Array Nat}
    {order : List Nat} (sorted : Sorted text span ranks order) (hlong : text.length ≤ span) :
    allDistinct ranks text.length order = true := by
  have hrising : order.Pairwise fun p q => ranks.getD p 0 < ranks.getD q 0 := by
    refine (sorted.drop_lt (.inl hlong)).imp_of_mem ?_
    intro p q hp hq hlt
    rw [sorted.perm.mem_iff, List.mem_range] at hp hq
    rw [sorted.rank_lt_iff hp hq, front, front, List.take_of_length_le, List.take_of_length_le]
    · exact hlt
    · rw [List.length_drop]
      omega
    · rw [List.length_drop]
      omega
  have hlength : order.length = text.length := by simpa using sorted.perm.length_eq
  rw [allDistinct, decide_eq_true_iff]
  cases order with
  | nil => simp [← hlength]
  | cons p order =>
      have hle := length_le_of_rising hrising
      rw [List.getLast?_eq_some_getLast (List.cons_ne_nil p order), Option.elim_some]
      rw [List.length_cons] at hlength
      omega

namespace Stage

variable {text : Tokens} {stage : Stage}

theorem Sound.span_lt (hsound : stage.Sound text) (htied : ¬ stage.Settled text.length) :
    stage.span < text.length := by
  by_contra hlong
  exact htied (hsound.sorted.allDistinct_of_long (Nat.le_of_not_lt hlong))

/-- The span doubles in each round and is less than the length of the text before it. -/
theorem Sound.ends (hsound : stage.Sound text) : stage.Ends text.length := by
  induction hleft : text.length - stage.span using Nat.strongRecOn generalizing stage with
  | ind left ih =>
      refine Acc.intro _ ?_
      intro next hround
      refine ih _ ?_ (hround.sound hsound) rfl
      obtain ⟨htied, -⟩ := hround
      have hlt := hsound.span_lt htied
      have hpos := hsound.span_pos
      dsimp only [ranked]
      omega

theorem exists_round (size : Nat) (htied : ¬ stage.Settled size) :
    ∃ next, Round size stage next :=
  ⟨_, .sorted htied (sortsTo_sort KeySort.merge_lawful _ _)⟩

/-- The bound on the rounds of a refinement is never what ends it. -/
theorem Sound.exists_rounds_refine {sort : KeySort} (hsort : sort.Lawful) {round : Nat}
    {ranks : Array Nat} {order : List Nat} (hsound : Sound text ⟨Nat.pow 2 round, ranks, order⟩) :
    ∃ last, Rounds text.length ⟨Nat.pow 2 round, ranks, order⟩ last ∧
      last.Settled text.length ∧ last.order = refine sort text.length round ranks order := by
  fun_induction refine sort text.length round ranks order with
  | case1 round ranks order htied key order' ih =>
      have hround : Round text.length ⟨Nat.pow 2 round, ranks, order⟩
          (ranked key text.length (2 * Nat.pow 2 round) order') :=
        .sorted (fun hsettled => Bool.false_ne_true (htied.2.symm.trans hsettled))
          (sortsTo_sort hsort key order)
      have hspan : Nat.pow 2 (round + 1) = 2 * Nat.pow 2 round := Nat.mul_comm _ 2
      have hnext := hround.sound hsound
      rw [ranked, ← hspan] at hround hnext
      obtain ⟨last, hrounds, hlast⟩ := ih hnext
      exact ⟨last, .head hround hrounds, hlast⟩
  | case2 round ranks order hend =>
      refine ⟨_, .refl, ?_, rfl⟩
      by_contra htied
      exact hend ⟨hsound.span_lt htied, (Bool.not_eq_true _).mp htied⟩

end Stage

open Stage

/-- Whatever any of the sorts does with equal keys, prefix doubling comes to an end, and where
no round is left the positions stand in the strictly increasing order of their suffixes. The
array that is built holds this order, which is also what its own rounds end with. -/
theorem doubling_ends_in_suffix_order {sort : KeySort} (hsort : sort.Lawful) (text : Tokens) :
    let built := (SuffixArray.buildWith sort text).starts
    InSuffixOrder text built ∧
      (∃ first last, IsFirst text first ∧ Rounds text.length first last ∧
        last.Settled text.length ∧ last.order = built) ∧
      ∀ first, IsFirst text first → first.Ends text.length ∧
        ∀ last, Rounds text.length first last → (∀ next, ¬ Round text.length last next) →
          last.order = built := by
  intro built
  have hbuilt : InSuffixOrder text built := by
    obtain ⟨hperm, hincreasing⟩ := order_sorted hsort text
    rw [← SuffixArray.starts_buildWith hsort] at hperm hincreasing
    exact ⟨hperm, hincreasing⟩
  refine ⟨hbuilt, ?_, ?_⟩
  · have hfirst : IsFirst text _ :=
      .sorted (sortsTo_sort hsort (tokenKey text) (List.range text.length))
    have hsound : Sound text ⟨Nat.pow 2 0, _, _⟩ := hfirst.sound
    obtain ⟨last, hrounds, hsettled, horder⟩ := hsound.exists_rounds_refine hsort
    refine ⟨_, last, hfirst, hrounds, hsettled, horder.trans ?_⟩
    exact (SuffixArray.starts_buildWith hsort text).symm
  · intro first hfirst
    refine ⟨hfirst.sound.ends, ?_⟩
    intro last hrounds hstuck
    have hsettled : last.Settled text.length := by
      by_contra htied
      obtain ⟨next, hround⟩ := exists_round text.length htied
      exact hstuck next hround
    exact ((hfirst.sound.after hrounds).inSuffixOrder hsettled).unique hbuilt

/-- All tokens are the same, so every sort but the last has ties to break, and this one breaks
them the wrong way round. -/
theorem doubling_ends_in_suffix_order_uniform :
    let text : Tokens := [7, 7, 7, 7, 7]
    let built := (SuffixArray.buildWith .backwards text).starts
    KeySort.backwards.Lawful ∧ built = [4, 3, 2, 1, 0] ∧ InSuffixOrder text built ∧
      (∃ first last, IsFirst text first ∧ Rounds text.length first last ∧
        last.Settled text.length ∧ last.order = built) ∧
      ∀ first, IsFirst text first → first.Ends text.length ∧
        ∀ last, Rounds text.length first last → (∀ next, ¬ Round text.length last next) →
          last.order = built := by
  intro text built
  have hordered := doubling_ends_in_suffix_order KeySort.backwards_lawful text
  have hexpected : InSuffixOrder text [4, 3, 2, 1, 0] := ⟨by decide, by decide⟩
  exact ⟨KeySort.backwards_lawful, hordered.1.unique hexpected, hordered⟩

end Suffixes

end Redraft.Align
