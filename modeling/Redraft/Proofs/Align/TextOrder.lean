import Redraft.Proofs.Align.Common

namespace Redraft.Tokens

def NotAbove (xs ys : Tokens) : Prop := ¬ ys < xs

@[simp] theorem nil_notAbove (ys : Tokens) : NotAbove [] ys := List.not_lt_nil ys

@[simp] theorem not_cons_notAbove_nil (x : Token) (xs : Tokens) : ¬ NotAbove (x :: xs) [] :=
  fun h => h (List.nil_lt_cons x xs)

theorem cons_notAbove_cons {x y : Token} {xs ys : Tokens} :
    NotAbove (x :: xs) (y :: ys) ↔ x < y ∨ x = y ∧ NotAbove xs ys := by
  simp only [NotAbove, List.cons_lt_cons_iff]
  constructor
  · intro h
    rcases Nat.lt_trichotomy x y with hlt | heq | hgt
    · exact .inl hlt
    · exact .inr ⟨heq, fun hlt => h (.inr ⟨heq.symm, hlt⟩)⟩
    · exact absurd (.inl hgt) h
  · rintro (hlt | ⟨rfl, hrest⟩) (hgt | ⟨heq, hlt'⟩)
    · exact Nat.lt_asymm hlt hgt
    · exact Nat.lt_irrefl _ (heq ▸ hlt)
    · exact Nat.lt_irrefl _ hgt
    · exact hrest hlt'

theorem NotAbove.refl (xs : Tokens) : NotAbove xs xs := by
  induction xs with
  | nil => exact nil_notAbove []
  | cons x xs ih => exact cons_notAbove_cons.2 (.inr ⟨rfl, ih⟩)

theorem NotAbove.trans {xs ys zs : Tokens} (hxy : NotAbove xs ys) (hyz : NotAbove ys zs) :
    NotAbove xs zs := by
  induction xs generalizing ys zs with
  | nil => exact nil_notAbove zs
  | cons x xs ih =>
      cases ys with
      | nil => exact absurd hxy (not_cons_notAbove_nil x xs)
      | cons y ys =>
          cases zs with
          | nil => exact absurd hyz (not_cons_notAbove_nil y ys)
          | cons z zs =>
              rw [cons_notAbove_cons] at hxy hyz ⊢
              rcases hxy with hlt | ⟨rfl, hrest⟩
              · rcases hyz with hlt' | ⟨rfl, -⟩
                · exact .inl (Nat.lt_trans hlt hlt')
                · exact .inl hlt
              · rcases hyz with hlt' | ⟨rfl, hrest'⟩
                · exact .inl hlt'
                · exact .inr ⟨rfl, ih hrest hrest'⟩

theorem NotAbove.antisymm {xs ys : Tokens} (hxy : NotAbove xs ys) (hyx : NotAbove ys xs) :
    xs = ys := by
  induction xs generalizing ys with
  | nil =>
      cases ys with
      | nil => rfl
      | cons y ys => exact absurd hyx (not_cons_notAbove_nil y ys)
  | cons x xs ih =>
      cases ys with
      | nil => exact absurd hxy (not_cons_notAbove_nil x xs)
      | cons y ys =>
          rw [cons_notAbove_cons] at hxy hyx
          rcases hxy with hlt | ⟨rfl, hrest⟩
          · rcases hyx with hlt' | ⟨heq, -⟩
            · exact absurd hlt' (Nat.lt_asymm hlt)
            · exact absurd heq (Nat.ne_of_gt hlt)
          · rcases hyx with hlt' | ⟨-, hrest'⟩
            · exact absurd hlt' (Nat.lt_irrefl _)
            · rw [ih hrest hrest']

theorem NotAbove.lt_of_ne {xs ys : Tokens} (h : NotAbove xs ys) (hne : xs ≠ ys) :
    xs < ys := by
  by_contra hnot
  exact hne (h.antisymm hnot)

theorem take_add_notAbove {xs ys : Tokens} {m n : Nat} :
    NotAbove (xs.take (m + n)) (ys.take (m + n)) ↔
      xs.take m < ys.take m ∨
        xs.take m = ys.take m ∧ NotAbove ((xs.drop m).take n) ((ys.drop m).take n) := by
  induction m generalizing xs ys with
  | zero => simp
  | succ m ih =>
      cases xs with
      | nil => cases ys <;> simp
      | cons x xs =>
          cases ys with
          | nil => simp [Nat.add_right_comm m 1 n]
          | cons y ys =>
              simp only [Nat.add_right_comm m 1 n, List.take_succ_cons, List.drop_succ_cons,
                cons_notAbove_cons, ih, List.cons_lt_cons_iff, List.cons.injEq]
              constructor
              · rintro (hlt | ⟨heq, hlt | ⟨hsame, hrest⟩⟩)
                · exact .inl (.inl hlt)
                · exact .inl (.inr ⟨heq, hlt⟩)
                · exact .inr ⟨⟨heq, hsame⟩, hrest⟩
              · rintro ((hlt | ⟨heq, hlt⟩) | ⟨⟨heq, hsame⟩, hrest⟩)
                · exact .inl hlt
                · exact .inr ⟨heq, .inl hlt⟩
                · exact .inr ⟨heq, .inr ⟨hsame, hrest⟩⟩

/-- Of three texts in order, the outer two agree no more than each agrees with the middle
one. -/
theorem agreement_le_between {xs ys zs : Tokens} (hxy : NotAbove xs ys)
    (hyz : NotAbove ys zs) :
    agreement xs zs ≤ agreement xs ys ∧ agreement xs zs ≤ agreement ys zs := by
  induction xs generalizing ys zs with
  | nil => simp
  | cons x xs ih =>
      cases zs with
      | nil => simp
      | cons z zs =>
          cases ys with
          | nil => exact absurd hxy (not_cons_notAbove_nil x xs)
          | cons y ys =>
              rw [cons_notAbove_cons] at hxy hyz
              by_cases hxz : x = z
              · subst x
                rcases hxy with hlt | ⟨rfl, hrest⟩
                · rcases hyz with hlt' | ⟨rfl, -⟩
                  · exact absurd hlt' (Nat.lt_asymm hlt)
                  · exact absurd hlt (Nat.lt_irrefl _)
                · rcases hyz with hlt' | ⟨-, hrest'⟩
                  · exact absurd hlt' (Nat.lt_irrefl _)
                  · simpa using ih hrest hrest'
              · simp [agreement_cons_of_ne hxz]

theorem agreement_le_of_below {xs ys pattern : Tokens} (hxy : NotAbove xs ys)
    (hys : NotAbove ys pattern) : agreement xs pattern ≤ agreement ys pattern :=
  (agreement_le_between hxy hys).2

theorem agreement_le_of_above {xs ys pattern : Tokens} (hys : NotAbove pattern ys)
    (hyx : NotAbove ys xs) : agreement xs pattern ≤ agreement ys pattern := by
  rw [agreement_comm xs, agreement_comm ys]
  exact (agreement_le_between hys hyx).1

end Redraft.Tokens
