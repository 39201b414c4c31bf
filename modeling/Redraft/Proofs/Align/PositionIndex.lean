import Redraft.Align.Positions

namespace Redraft.Align.PositionIndex

def places (token : Token) (text : Tokens) : List Nat :=
  (text.zipIdx.filter (·.1 == token)).map (·.2)

/-- The index lists the places of every token in the text that it holds. -/
def Faithful (index : PositionIndex) : Prop :=
  ∀ token, index.occurrences token = places token index.indexed

theorem mem_places {token : Token} {text : Tokens} {j : Nat} :
    j ∈ places token text ↔ text[j]? = some token := by
  simp [places, List.mem_zipIdx_iff_getElem?]

theorem places_sorted (token : Token) (text : Tokens) :
    (places token text).Pairwise (· < ·) := by
  apply List.Pairwise.sublist (List.filter_sublist.map Prod.snd)
  rw [List.zipIdx_map_snd]
  exact List.pairwise_lt_range'

theorem foldl_note_getD (token : Token) (entries : List (Token × Nat))
    (positions : Std.HashMap Token (Array Nat)) :
    ((entries.foldl note positions).getD token #[]).toList =
      (positions.getD token #[]).toList ++ (entries.filter (·.1 == token)).map (·.2) := by
  induction entries generalizing positions with
  | nil => simp
  | cons entry entries ih =>
      rw [List.foldl_cons, ih, note, Std.HashMap.getD_alter]
      by_cases htoken : entry.1 = token
      · subst htoken
        simp [Std.HashMap.getD_eq_getD_getElem?]
      · simp [htoken]

theorem faithful_empty : Faithful empty := by
  intro token
  rw [occurrences_empty]
  rfl

theorem Faithful.sync {index : PositionIndex} (h : index.Faithful) (window : Tokens) :
    (index.sync window).Faithful := by
  intro token
  have hbase (base : PositionIndex) (hbase : base.Faithful)
      (hstarts : base.indexed <+: window) :
      (((window.drop base.indexed.length).zipIdx base.indexed.length).foldl note
        base.positions |>.getD token #[]).toList = places token window := by
    obtain ⟨rest, rfl⟩ := hstarts
    rw [foldl_note_getD, List.drop_left, places, List.zipIdx_append, List.filter_append,
      List.map_append, Nat.zero_add]
    exact congrArg (· ++ _) (hbase token)
  rw [indexed_sync]
  unfold PositionIndex.sync occurrences
  by_cases hstarts : index.indexed.isPrefixOf window = true
  · simpa [hstarts] using hbase index h (List.isPrefixOf_iff_prefix.1 hstarts)
  · simpa [hstarts] using hbase empty faithful_empty List.nil_prefix

theorem Faithful.foldl_sync {index : PositionIndex} (h : index.Faithful)
    (seen : List Tokens) : (seen.foldl PositionIndex.sync index).Faithful := by
  induction seen generalizing index with
  | nil => exact h
  | cons window seen ih => exact ih (h.sync window)

theorem takeWhile_dropWhile_eq_filter {places : List Nat} (hsorted : places.Pairwise (· < ·))
    (start stop : Nat) :
    (places.dropWhile (· < start)).takeWhile (· < stop) =
      places.filter fun j => start ≤ j ∧ j < stop := by
  induction hsorted with
  | nil => rfl
  | @cons place places hbehind _ ih =>
      by_cases hbefore : place < start
      · rw [List.dropWhile_cons_of_pos (by simpa using hbefore), ih,
          List.filter_cons_of_neg (by simp; omega)]
      · have hnone : places.dropWhile (· < start) = places := by
          cases places with
          | nil => rfl
          | cons next places =>
              have hnext := hbehind next List.mem_cons_self
              exact List.dropWhile_cons_of_neg (by simp; omega)
        rw [hnone] at ih
        rw [List.dropWhile_cons_of_neg (by simpa using hbefore)]
        by_cases hinside : place < stop
        · rw [List.takeWhile_cons_of_pos (by simpa using hinside), ih,
            List.filter_cons_of_pos (by simp; omega)]
        · rw [List.takeWhile_cons_of_neg (by simpa using hinside), eq_comm,
            List.filter_eq_nil_iff]
          intro j hj
          have hle : place ≤ j := by
            rcases List.mem_cons.1 hj with rfl | hrest
            · exact Nat.le_refl _
            · exact Nat.le_of_lt (hbehind j hrest)
          simp
          omega

theorem Faithful.seeds_eq_filter {index : PositionIndex} (h : index.Faithful)
    (limit : Option Nat) (start stop : Nat) (token : Token) :
    index.seeds limit start stop token =
      if index.isPopular limit token then []
      else (places token index.indexed).filter fun j => start ≤ j ∧ j < stop := by
  rw [seeds, h token, takeWhile_dropWhile_eq_filter (places_sorted token index.indexed)]

theorem Faithful.mem_seeds {index : PositionIndex} (h : index.Faithful)
    {start stop j : Nat} {token : Token} :
    j ∈ index.seeds none start stop token ↔
      start ≤ j ∧ j < stop ∧ index.indexed[j]? = some token := by
  rw [h.seeds_eq_filter]
  simp [isPopular, mem_places, and_comm, and_assoc]

theorem mem_seeds_of_limit {index : PositionIndex} {limit : Option Nat} {start stop j : Nat}
    {token : Token} (h : j ∈ index.seeds limit start stop token) :
    j ∈ index.seeds none start stop token := by
  unfold seeds at h
  split at h
  · cases h
  · exact h

theorem length_places (token : Token) (text : Tokens) :
    (places token text).length = text.count token := by
  rw [places, List.length_map, ← List.countP_eq_length_filter, List.count]
  conv =>
    rhs
    rw [← List.zipIdx_map_fst 0 text, List.countP_map]
  rfl

section Rare

variable {index : PositionIndex} {limit : Option Nat} {token : Token}

theorem Faithful.isPopular_eq_false (h : index.Faithful)
    (hrare : ∀ most ∈ limit, index.indexed.count token ≤ most) :
    index.isPopular limit token = false := by
  rw [isPopular, h token, length_places]
  cases limit with
  | none => rfl
  | some most =>
      have hmost := hrare most rfl
      simpa using hmost

theorem Faithful.mem_seeds_of_rare (h : index.Faithful) {start stop j : Nat}
    (hrare : ∀ most ∈ limit, index.indexed.count token ≤ most)
    (hseed : j ∈ index.seeds none start stop token) :
    j ∈ index.seeds limit start stop token := by
  simp only [seeds, h.isPopular_eq_false hrare]
  exact hseed

end Rare

theorem Faithful.seeds_sorted {index : PositionIndex} (h : index.Faithful)
    (limit : Option Nat) (start stop : Nat) (token : Token) :
    (index.seeds limit start stop token).Pairwise (· < ·) := by
  rw [h.seeds_eq_filter]
  split
  · exact List.Pairwise.nil
  · exact (places_sorted token index.indexed).filter _

end Redraft.Align.PositionIndex
