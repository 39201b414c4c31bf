import Redraft.Align.Division
import Redraft.Proofs.Align.Diagonals

/-!
However the diagonals of a region are divided, the same block is found. The better of two blocks
depends neither on their order nor on how further blocks are grouped with them, so joining the
parts amounts to one worker who walks all diagonals.
-/

namespace Redraft.Align

namespace Block

theorem NotAfter.preferred {a b c : Block} (ha : c.NotAfter a) (hb : c.NotAfter b) :
    c.NotAfter (a.preferred b) := by
  rcases preferred_mem a b with hleft | hright
  · rwa [hleft]
  · rwa [hright]

theorem preferred_comm (a b : Block) : a.preferred b = b.preferred a := by
  obtain ⟨ha, hb⟩ := notAfter_preferred a b
  obtain ⟨hb', ha'⟩ := notAfter_preferred b a
  exact (hb.preferred ha).antisymm (ha'.preferred hb')

theorem preferred_assoc (a b c : Block) :
    (a.preferred b).preferred c = a.preferred (b.preferred c) := by
  obtain ⟨hab, hc⟩ := notAfter_preferred (a.preferred b) c
  obtain ⟨ha, hb⟩ := notAfter_preferred a b
  obtain ⟨ha', hbc⟩ := notAfter_preferred a (b.preferred c)
  obtain ⟨hb', hc'⟩ := notAfter_preferred b c
  apply NotAfter.antisymm
  · exact (hab.trans ha).preferred ((hab.trans hb).preferred hc)
  · exact (ha'.preferred (hbc.trans hb')).preferred (hbc.trans hc')

instance : Std.Commutative Block.preferred := ⟨preferred_comm⟩

instance : Std.Associative Block.preferred := ⟨preferred_assoc⟩

end Block

section PreferredOf

variable {blocks blocks' : List Block}

@[simp] theorem preferredOf_nil : preferredOf [] = none := rfl

@[simp] theorem preferredOf_cons (block : Block) (blocks : List Block) :
    preferredOf (block :: blocks) =
      Option.merge Block.preferred (some block) (preferredOf blocks) := by
  cases blocks with
  | nil => rfl
  | cons second blocks =>
      rw [preferredOf, List.foldl_cons, List.foldl_assoc]
      rfl

theorem preferredOf_append (blocks blocks' : List Block) :
    preferredOf (blocks ++ blocks') =
      Option.merge Block.preferred (preferredOf blocks) (preferredOf blocks') := by
  induction blocks with
  | nil => simp
  | cons block blocks ih =>
      rw [List.cons_append, preferredOf_cons, preferredOf_cons, ih]
      ac_rfl

theorem preferredOf_perm (hperm : blocks.Perm blocks') :
    preferredOf blocks = preferredOf blocks' := by
  induction hperm with
  | nil => rfl
  | cons block _ ih => rw [preferredOf_cons, preferredOf_cons, ih]
  | swap block second blocks =>
      simp only [preferredOf_cons]
      ac_rfl
  | trans _ _ ih ih' => exact ih.trans ih'

end PreferredOf

namespace Division

variable {division : Division} {region : Region}

@[simp] theorem best_alone (found : Nat × Nat → Option Block) (starts : List (Nat × Nat)) :
    (alone starts).best found = preferredOf (starts.filterMap found) := rfl

@[simp] theorem best_apart (found : Nat × Nat → Option Block) (left right : Division) :
    (apart left right).best found =
      Option.merge Block.preferred (left.best found) (right.best found) := rfl

/-- Parts that are joined amount to one worker who walks what they walk. -/
theorem best_eq_preferredOf (division : Division) (found : Nat × Nat → Option Block) :
    division.best found = preferredOf (division.starts.filterMap found) := by
  induction division with
  | alone starts => exact best_alone found starts
  | apart left right ihLeft ihRight =>
      rw [best_apart, ihLeft, ihRight, starts, List.filterMap_append, preferredOf_append]

theorem longest_eq_longestOnDiagonals (hwhole : division.starts.Perm region.diagonals)
    (reference generated : Tokens) :
    division.longest reference generated region =
      longestOnDiagonals reference generated region := by
  rw [longest, best_eq_preferredOf, preferredOf_perm (hwhole.filterMap _), longestOnDiagonals]

end Division

/-- Every division of a region's diagonals, and every order in which they are walked, leads to
the one longest common block that is earliest in the reference and then in the output, or to the
empty block if no token is shared. It is what one worker finds, so it does not matter from
which size on regions are divided. -/
theorem every_division_finds_longest {division : Division} {region : Region}
    (hwhole : division.starts.Perm region.diagonals) (reference generated : Tokens) :
    let block := division.longest reference generated region
    ((region.Longest reference generated block ∧
        ∀ other, region.Longest reference generated other → other = block) ∨
      block = region.emptyBlock ∧ ∀ other, ¬region.Common reference generated other) ∧
      longestOnDiagonals reference generated region = block ∧
        longestDivided division reference generated region = block := by
  have halone : division.longest reference generated region =
      longestOnDiagonals reference generated region :=
    Division.longest_eq_longestOnDiagonals hwhole reference generated
  dsimp only
  rw [longestDivided, halone, ite_self]
  exact ⟨(longestOnDiagonals_first reference generated region).longest_or_empty, rfl, rfl⟩

/-- The diagonals are walked out of order, one part has none, and four runs are equally long. -/
theorem every_division_finds_longest_tied :
    let division : Division :=
      .apart (.alone [(3, 0), (0, 4), (0, 3)])
        (.apart (.apart (.alone []) (.alone [(4, 0), (0, 0), (1, 0)]))
          (.alone [(0, 2), (0, 1), (2, 0)]))
    let region : Region := ⟨0, 5, 0, 5⟩
    let reference : Tokens := [5, 6, 1, 5, 6]
    let generated : Tokens := [5, 6, 2, 5, 6]
    division.starts.Perm region.diagonals ∧
      division.longest reference generated region = ⟨0, 0, 2⟩ ∧
        region.Longest reference generated ⟨0, 0, 2⟩ ∧
          longestDivided division reference generated region = ⟨0, 0, 2⟩ := by
  intro division region reference generated
  have hwhole : division.starts.Perm region.diagonals := by decide
  have hblock : division.longest reference generated region = ⟨0, 0, 2⟩ := by decide
  obtain ⟨hlongest, -, hdivided⟩ := every_division_finds_longest hwhole reference generated
  rw [hblock] at hlongest hdivided
  exact ⟨hwhole, hblock, (hlongest.resolve_right fun hempty => absurd hempty.1 (by decide)).1,
    hdivided⟩

end Redraft.Align
