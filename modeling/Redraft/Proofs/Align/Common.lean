import Mathlib.Order.Defs.LinearOrder
import Redraft.Align.Block

/-!
Common blocks and their order. A block is common to a region when it spells the same tokens
in both texts and is not empty; how long it can be at a place is the agreement of what
follows. Every finder is held against one specification, the first common block of a
region, and there is only one of those.
-/

namespace Redraft

namespace Tokens

theorem shared_nil_iff {n : Nat} {xs ys : Tokens} (hnil : xs = [] ∨ ys = []) :
    (∀ k < n, ∃ token, xs[k]? = some token ∧ ys[k]? = some token) ↔ n = 0 := by
  constructor
  · intro h
    cases n with
    | zero => rfl
    | succ n =>
        obtain ⟨token, hleft, hright⟩ := h 0 (Nat.succ_pos n)
        rcases hnil with rfl | rfl
        · cases hleft
        · cases hright
  · intro heq k hk
    subst heq
    exact absurd hk (Nat.not_lt_zero k)

theorem shared_cons_iff {n : Nat} {a b : Token} {as bs : Tokens} :
    (∀ k < n + 1, ∃ token, (a :: as)[k]? = some token ∧ (b :: bs)[k]? = some token) ↔
      a = b ∧ ∀ k < n, ∃ token, as[k]? = some token ∧ bs[k]? = some token := by
  constructor
  · intro h
    obtain ⟨token, hleft, hright⟩ := h 0 (Nat.succ_pos n)
    refine ⟨Option.some.inj (hleft.trans hright.symm), ?_⟩
    intro k hk
    exact h (k + 1) (Nat.succ_lt_succ hk)
  · intro hgiven k hk
    obtain ⟨rfl, h⟩ := hgiven
    cases k with
    | zero => exact ⟨a, rfl, rfl⟩
    | succ k => exact h k (Nat.lt_of_succ_lt_succ hk)

theorem le_agreement_iff {n : Nat} {xs ys : Tokens} :
    n ≤ agreement xs ys ↔
      ∀ k < n, ∃ token, xs[k]? = some token ∧ ys[k]? = some token := by
  induction xs generalizing ys n with
  | nil => rw [agreement_nil_left, shared_nil_iff (.inl rfl), Nat.le_zero]
  | cons a as ih =>
      cases ys with
      | nil => rw [agreement_nil_right, shared_nil_iff (.inr rfl), Nat.le_zero]
      | cons b bs =>
          cases n with
          | zero => simp
          | succ n =>
              rw [shared_cons_iff, ← ih]
              by_cases hab : a = b
              · rw [hab, agreement_cons_self, Nat.add_le_add_iff_right, eq_self, true_and]
              · rw [agreement_cons_of_ne hab]
                exact iff_of_false (Nat.not_succ_le_zero n) fun h => hab h.1

theorem getElem?_of_lt_agreement {k : Nat} {xs ys : Tokens} (h : k < agreement xs ys) :
    ∃ token, xs[k]? = some token ∧ ys[k]? = some token :=
  le_agreement_iff.1 (Nat.le_refl _) k h

theorem agreement_comm (xs ys : Tokens) : agreement xs ys = agreement ys xs := by
  induction xs generalizing ys with
  | nil => simp
  | cons x xs ih =>
      cases ys with
      | nil => simp
      | cons y ys =>
          by_cases hxy : x = y
          · subst y
            simp [ih]
          · rw [agreement_cons_of_ne hxy, agreement_cons_of_ne (Ne.symm hxy)]

theorem agreement_le_left (xs ys : Tokens) : agreement xs ys ≤ xs.length := by
  by_contra hlt
  obtain ⟨token, hleft, -⟩ := getElem?_of_lt_agreement (Nat.lt_of_not_le hlt)
  simp at hleft

theorem agreement_le_right (xs ys : Tokens) : agreement xs ys ≤ ys.length := by
  rw [agreement_comm]
  exact agreement_le_left ys xs

theorem agreement_drop {n : Nat} {xs ys : Tokens} (h : n ≤ agreement xs ys) :
    agreement (xs.drop n) (ys.drop n) = agreement xs ys - n := by
  have hbelow := le_agreement_iff.1 h
  apply Nat.le_antisymm
  · have hreach : n + agreement (xs.drop n) (ys.drop n) ≤ agreement xs ys := by
      rw [le_agreement_iff]
      intro k hk
      by_cases hkn : k < n
      · exact hbelow k hkn
      · have hbehind := le_agreement_iff.1 (Nat.le_refl (agreement (xs.drop n) (ys.drop n)))
          (k - n) (by omega)
        simpa [List.getElem?_drop, Nat.add_sub_cancel' (Nat.le_of_not_lt hkn)] using hbehind
    omega
  · rw [le_agreement_iff]
    intro k hk
    simpa [List.getElem?_drop] using
      le_agreement_iff.1 (Nat.le_refl (agreement xs ys)) (n + k) (by omega)

theorem agreement_append_right {xs ys : Tokens} (zs : Tokens)
    (h : agreement xs ys < ys.length) : agreement xs (ys ++ zs) = agreement xs ys := by
  induction xs generalizing ys with
  | nil => simp
  | cons x xs ih =>
      cases ys with
      | nil => simp at h
      | cons y ys =>
          by_cases hxy : x = y
          · subst y
            simp only [agreement_cons_self, List.length_cons, Nat.add_lt_add_iff_right] at h
            simp [ih h]
          · simp [agreement_cons_of_ne hxy]

theorem le_agreement_of_append {n : Nat} {xs ys zs : Tokens} (hn : n ≤ ys.length)
    (h : n ≤ agreement xs (ys ++ zs)) : n ≤ agreement xs ys := by
  rw [le_agreement_iff] at h ⊢
  intro k hk
  obtain ⟨token, hleft, hright⟩ := h k hk
  rw [List.getElem?_append_left (by omega)] at hright
  exact ⟨token, hleft, hright⟩

theorem agreement_le_append_right (xs ys zs : Tokens) :
    agreement xs ys ≤ agreement xs (ys ++ zs) := by
  rw [le_agreement_iff]
  intro k hk
  obtain ⟨token, hleft, hright⟩ := le_agreement_iff.1 (Nat.le_refl _) k hk
  refine ⟨token, hleft, ?_⟩
  rw [List.getElem?_append_left (by have := agreement_le_right xs ys; omega)]
  exact hright

theorem getElem?_extract (xs : Tokens) (start stop k : Nat) :
    (xs.extract start stop)[k]? = if k < stop - start then xs[start + k]? else none := by
  rw [List.extract_eq_take_drop, List.getElem?_take, List.getElem?_drop]

theorem extract_succ (xs : Tokens) (start stop : Nat) :
    xs.extract (start + 1) stop = (xs.extract start stop).tail := by
  rw [← List.drop_one, List.extract_eq_take_drop, List.extract_eq_take_drop, List.drop_take,
    List.drop_drop, Nat.sub_sub]

end Tokens

namespace Align

namespace Block

/-- The block is the other one or preferred to it. -/
def NotAfter (a b : Block) : Prop := a.preference b ≠ .gt

theorem notAfter_iff {a b : Block} :
    a.NotAfter b ↔
      b.length < a.length ∨ b.length = a.length ∧
        (a.referenceStart < b.referenceStart ∨
          a.referenceStart = b.referenceStart ∧ a.generatedStart ≤ b.generatedStart) := by
  simp only [NotAfter, preference, ne_eq, Ordering.then_eq_gt, Nat.compare_eq_gt,
    Nat.compare_eq_eq]
  omega

theorem preference_eq_lt_iff {a b : Block} : a.preference b = .lt ↔ ¬ b.NotAfter a := by
  rw [notAfter_iff]
  simp only [preference, Ordering.then_eq_lt, Nat.compare_eq_lt, Nat.compare_eq_eq]
  omega

theorem NotAfter.refl (a : Block) : a.NotAfter a := by
  rw [notAfter_iff]
  omega

theorem NotAfter.trans {a b c : Block} (hab : a.NotAfter b) (hbc : b.NotAfter c) :
    a.NotAfter c := by
  rw [notAfter_iff] at *
  omega

theorem NotAfter.antisymm {a b : Block} (hab : a.NotAfter b) (hba : b.NotAfter a) :
    a = b := by
  rw [notAfter_iff] at hab hba
  obtain ⟨i, j, n⟩ := a
  obtain ⟨i', j', n'⟩ := b
  simp only [Block.mk.injEq] at *
  omega

theorem NotAfter.length_le {a b : Block} (h : a.NotAfter b) : b.length ≤ a.length := by
  rw [notAfter_iff] at h
  omega

theorem notAfter_preferred (a b : Block) :
    (a.preferred b).NotAfter a ∧ (a.preferred b).NotAfter b := by
  unfold preferred
  by_cases h : b.preference a = .lt
  · rw [if_pos h]
    rw [preference_eq_lt_iff, notAfter_iff] at h
    refine ⟨?_, NotAfter.refl b⟩
    rw [notAfter_iff]
    omega
  · rw [if_neg h]
    rw [preference_eq_lt_iff, Classical.not_not] at h
    exact ⟨NotAfter.refl a, h⟩

theorem preferred_mem (a b : Block) : a.preferred b = a ∨ a.preferred b = b := by
  unfold preferred
  split
  · exact .inr rfl
  · exact .inl rfl

theorem foldl_preferred (first : Block) (blocks : List Block) :
    blocks.foldl preferred first ∈ first :: blocks ∧
      ∀ block ∈ first :: blocks, (blocks.foldl preferred first).NotAfter block := by
  induction blocks generalizing first with
  | nil => simpa using NotAfter.refl first
  | cons second blocks ih =>
      obtain ⟨hmem, hfirst⟩ := ih (first.preferred second)
      have hpreferred := notAfter_preferred first second
      constructor
      · rw [List.foldl_cons]
        rcases List.mem_cons.1 hmem with heq | htail
        · rw [heq]
          rcases preferred_mem first second with hleft | hright
          · simp [hleft]
          · simp [hright]
        · exact List.mem_cons_of_mem _ (List.mem_cons_of_mem _ htail)
      · intro block hblock
        rw [List.foldl_cons]
        have hhead := hfirst _ List.mem_cons_self
        rcases List.mem_cons.1 hblock with rfl | hrest
        · exact hhead.trans hpreferred.1
        · rcases List.mem_cons.1 hrest with rfl | htail
          · exact hhead.trans hpreferred.2
          · exact hfirst block (List.mem_cons_of_mem _ htail)

end Block

namespace Region

def agreementAt (region : Region) (reference generated : Tokens) (i j : Nat) : Nat :=
  Tokens.agreement (reference.extract i region.referenceTo)
    (generated.extract j region.generatedTo)

structure Common (region : Region) (reference generated : Tokens) (block : Block) : Prop where
  inside : region.Contains block
  spells : block.Spells reference generated
  nonempty : 0 < block.length

/-- The first of all common blocks in the order of preference, or the empty block if no
token is shared. -/
structure First (region : Region) (reference generated : Tokens) (block : Block) : Prop where
  common : block = region.emptyBlock ∨ region.Common reference generated block
  notAfter : ∀ other, region.Common reference generated other → block.NotAfter other

theorem le_agreementAt_iff {region : Region} {reference generated : Tokens} {i j n : Nat} :
    n ≤ region.agreementAt reference generated i j ↔
      ∀ k < n, k < region.referenceTo - i ∧ k < region.generatedTo - j ∧
        ∃ token, reference[i + k]? = some token ∧ generated[j + k]? = some token := by
  simp only [agreementAt, Tokens.le_agreement_iff, Tokens.getElem?_extract]
  apply forall_congr'
  intro k
  apply imp_congr_right
  intro hk
  by_cases hi : k < region.referenceTo - i <;> by_cases hj : k < region.generatedTo - j <;>
    simp [hi, hj]

theorem agreementAt_of_ends {region : Region} {reference generated : Tokens}
    (hreference : region.referenceTo = reference.length)
    (hgenerated : region.generatedTo = generated.length) (i j : Nat) :
    region.agreementAt reference generated i j =
      Tokens.agreement (reference.drop i) (generated.drop j) := by
  rw [agreementAt, hreference, hgenerated, List.extract_eq_take_drop, List.extract_eq_take_drop,
    List.take_of_length_le (by simp), List.take_of_length_le (by simp)]

theorem common_iff {region : Region} {reference generated : Tokens} {block : Block} :
    region.Common reference generated block ↔
      region.referenceFrom ≤ block.referenceStart ∧
        region.generatedFrom ≤ block.generatedStart ∧ 0 < block.length ∧
          block.length ≤ region.agreementAt reference generated block.referenceStart
            block.generatedStart := by
  rw [le_agreementAt_iff]
  constructor
  · intro hgiven
    obtain ⟨⟨hrs, hre, hgs, hge⟩, ⟨hrlen, hglen, hspell⟩, hpos⟩ := hgiven
    simp only [Block.referenceEnd, Block.generatedEnd] at *
    refine ⟨hrs, hgs, hpos, ?_⟩
    intro k hk
    have hk' := congrArg (·[k]?) hspell
    simp only [Tokens.getElem?_extract, Nat.add_sub_cancel_left, hk, if_true] at hk'
    have hin : block.referenceStart + k < reference.length := by omega
    have hget := List.getElem?_eq_getElem hin
    exact ⟨by omega, by omega, _, hget, hk'.symm.trans hget⟩
  · intro hgiven
    obtain ⟨hrs, hgs, hpos, hagree⟩ := hgiven
    obtain ⟨hrto, hgto, token, href, hgen⟩ := hagree (block.length - 1) (by omega)
    have hrlt := (List.getElem?_eq_some_iff.1 href).1
    have hglt := (List.getElem?_eq_some_iff.1 hgen).1
    refine ⟨⟨hrs, ?_, hgs, ?_⟩, ⟨?_, ?_, ?_⟩, hpos⟩
    · simp only [Block.referenceEnd]
      omega
    · simp only [Block.generatedEnd]
      omega
    · simp only [Block.referenceEnd]
      omega
    · simp only [Block.generatedEnd]
      omega
    · apply List.ext_getElem?
      intro k
      simp only [Tokens.getElem?_extract, Block.referenceEnd, Block.generatedEnd,
        Nat.add_sub_cancel_left]
      by_cases hk : k < block.length
      · obtain ⟨-, -, token, href, hgen⟩ := hagree k hk
        simp [hk, href, hgen]
      · simp [hk]

theorem First.unique {region : Region} {reference generated : Tokens} {a b : Block}
    (ha : region.First reference generated a) (hb : region.First reference generated b) :
    a = b := by
  rcases ha.common with rfl | hacommon
  · rcases hb.common with rfl | hbcommon
    · rfl
    · have hlength := (ha.notAfter b hbcommon).length_le
      have hpos := hbcommon.nonempty
      simp only [length_emptyBlock] at hlength
      omega
  · rcases hb.common with rfl | hbcommon
    · have hlength := (hb.notAfter a hacommon).length_le
      have hpos := hacommon.nonempty
      simp only [length_emptyBlock] at hlength
      omega
    · exact (ha.notAfter b hbcommon).antisymm (hb.notAfter a hacommon)

theorem First.common_of_pos {region : Region} {reference generated : Tokens} {block : Block}
    (hfirst : region.First reference generated block) (hpos : 0 < block.length) :
    region.Common reference generated block := by
  refine hfirst.common.resolve_left ?_
  rintro rfl
  exact Nat.lt_irrefl 0 hpos

/-- The longest common block, among equally long ones the earliest in the reference, and among
those the earliest in the output. -/
structure Longest (region : Region) (reference generated : Tokens) (block : Block) : Prop where
  common : region.Common reference generated block
  longest : ∀ other, region.Common reference generated other → other.length ≤ block.length
  earliest : ∀ other, region.Common reference generated other → other.length = block.length →
    block.referenceStart < other.referenceStart ∨
      block.referenceStart = other.referenceStart ∧ block.generatedStart ≤ other.generatedStart

theorem Longest.first {region : Region} {reference generated : Tokens} {block : Block}
    (h : region.Longest reference generated block) : region.First reference generated block := by
  refine ⟨.inr h.common, ?_⟩
  intro other hother
  rw [Block.notAfter_iff]
  rcases Nat.lt_or_eq_of_le (h.longest other hother) with hshorter | heq
  · exact .inl hshorter
  · exact .inr ⟨heq, h.earliest other hother heq⟩

theorem First.longest {region : Region} {reference generated : Tokens} {block : Block}
    (h : region.First reference generated block) (hpos : 0 < block.length) :
    region.Longest reference generated block where
  common := h.common_of_pos hpos
  longest other hother := (h.notAfter other hother).length_le
  earliest := by
    intro other hother heq
    have hnotAfter := h.notAfter other hother
    rw [Block.notAfter_iff] at hnotAfter
    omega

theorem First.longest_or_empty {region : Region} {reference generated : Tokens} {block : Block}
    (h : region.First reference generated block) :
    (region.Longest reference generated block ∧
        ∀ other, region.Longest reference generated other → other = block) ∨
      block = region.emptyBlock ∧ ∀ other, ¬region.Common reference generated other := by
  rcases Nat.eq_zero_or_pos block.length with hzero | hpos
  · have hnothing (other : Block) : ¬region.Common reference generated other := by
      intro hother
      have hlength := (h.notAfter other hother).length_le
      have hnonempty := hother.nonempty
      omega
    exact .inr ⟨h.common.resolve_right (hnothing block), hnothing⟩
  · exact .inl ⟨h.longest hpos, fun other hother => hother.first.unique h⟩

theorem agreementAt_add {region : Region} {reference generated : Tokens} {i j n : Nat}
    (h : n ≤ region.agreementAt reference generated i j) :
    region.agreementAt reference generated (i + n) (j + n) =
      region.agreementAt reference generated i j - n := by
  have hdrop := Tokens.agreement_drop h
  rw [agreementAt, agreementAt, ← hdrop]
  simp only [List.extract_eq_take_drop, List.drop_take, List.drop_drop, Nat.sub_sub]

end Region

end Align

end Redraft
