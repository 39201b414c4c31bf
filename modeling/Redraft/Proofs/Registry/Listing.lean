import Mathlib.Data.List.Pairwise
import Redraft.Proofs.Registry.Roster

namespace Redraft

variable {α : Type}

namespace Roster

variable {roster : Roster}

def number? (roster : Roster) (id : RequestId) : Option Nat :=
  (roster.find? id).map (·.number)

theorem Orderly.eq_of_id (horderly : roster.Orderly) {first second : RosterEntry}
    (hfirst : first ∈ roster.entries) (hsecond : second ∈ roster.entries)
    (hid : first.id = second.id) : first = second := by
  have hsymm : Std.Symm fun entry other : RosterEntry => entry.id ≠ other.id :=
    ⟨fun _ _ hne => hne.symm⟩
  by_contra hne
  exact horderly.distinct.forall hfirst hsecond hne hid

theorem Orderly.find?_of_mem (horderly : roster.Orderly) {entry : RosterEntry}
    (hentry : entry ∈ roster.entries) : roster.find? entry.id = some entry := by
  cases hfind : roster.find? entry.id with
  | none => exact absurd rfl (find?_eq_none_iff.1 hfind entry hentry)
  | some found =>
      have hid : found.id = entry.id := by simpa using List.find?_some hfind
      rw [horderly.eq_of_id (List.mem_of_find?_eq_some hfind) hentry hid]

theorem number?_eq_some {id : RequestId} {number : Nat}
    (hnumber : roster.number? id = some number) :
    ∃ entry ∈ roster.entries, entry.id = id ∧ entry.number = number := by
  obtain ⟨entry, hfind, hentry⟩ := Option.map_eq_some_iff.1 hnumber
  exact ⟨entry, List.mem_of_find?_eq_some hfind, by simpa using List.find?_some hfind, hentry⟩

theorem find?_drop (roster : Roster) (id other : RequestId) :
    (roster.drop id).find? other = if id = other then none else roster.find? other := by
  rw [find?, drop, List.find?_filter, find?]
  split
  · rename_i hsame
    rw [hsame, List.find?_eq_none]
    intro entry _
    simp
  · rename_i hdiffer
    congr 1
    funext entry
    by_cases hother : entry.id = other
    · simp [hother, Ne.symm hdiffer]
    · simp [hother]

theorem number?_alter (roster : Roster) (number : Nat) (change : SessionCell → SessionCell)
    (id : RequestId) : (roster.alter number change).number? id = roster.number? id := by
  have hid (entry : RosterEntry) :
      (if entry.number = number then { entry with cell := change entry.cell }
        else entry).id = entry.id := by
    split
    · rfl
    · rfl
  have hnumber (entry : RosterEntry) :
      (if entry.number = number then { entry with cell := change entry.cell }
        else entry).number = entry.number := by
    split
    · rfl
    · rfl
  simp only [number?, find?, alter, List.find?_map, Option.map_map, Function.comp_def, hid,
    hnumber]

theorem number?_enter (roster : Roster) (id : RequestId) (reference : Tokens)
    (other : RequestId) :
    (roster.enter id reference).number? other =
      (roster.number? other).or (if id = other then some roster.next else none) := by
  rw [number?, find?, enter, List.find?_append, Option.map_or, number?, find?]
  congr 1
  rw [List.find?_singleton]
  by_cases hsame : id = other
  · simp [hsame]
  · simp [hsame]

theorem filter_of_absent {entries : List RosterEntry} {id : RequestId}
    (habsent : ∀ entry ∈ entries, entry.id ≠ id) :
    entries.filter (·.id != id) = entries := by
  rw [List.filter_eq_self]
  intro entry hentry
  simpa using habsent entry hentry

theorem length_drop_of_distinct {entries : List RosterEntry}
    (hdistinct : entries.Pairwise (·.id ≠ ·.id)) (id : RequestId) :
    (entries.filter (·.id != id)).length =
      if (entries.find? (·.id == id)).isSome then entries.length - 1
      else entries.length := by
  induction entries with
  | nil => rfl
  | cons entry entries ih =>
      rw [List.pairwise_cons] at hdistinct
      by_cases hid : entry.id = id
      · have hrest := filter_of_absent fun other hother =>
          hid ▸ (hdistinct.1 other hother).symm
        simp [hid, hrest]
      · have hlength := ih hdistinct.2
        have hkept : (entry :: entries).filter (·.id != id) =
            entry :: entries.filter (·.id != id) :=
          List.filter_cons_of_pos (by simpa using hid)
        have hsearch : (entry :: entries).find? (·.id == id) =
            entries.find? (·.id == id) :=
          List.find?_cons_of_neg (by simpa using hid)
        rw [hkept, hsearch, List.length_cons, hlength, List.length_cons]
        split
        · rename_i hfound
          have hpositive : 0 < entries.length := by
            obtain ⟨found, hfound⟩ := Option.isSome_iff_exists.1 hfound
            exact List.length_pos_of_mem (List.mem_of_find?_eq_some hfound)
          omega
        · rfl

theorem Orderly.length_drop (horderly : roster.Orderly) (id : RequestId) :
    (roster.drop id).entries.length =
      if (roster.number? id).isSome then roster.entries.length - 1
      else roster.entries.length := by
  rw [number?, Option.isSome_map]
  exact length_drop_of_distinct horderly.distinct id

theorem Orderly.drop_head (horderly : roster.Orderly) {first : RosterEntry}
    {rest : List RosterEntry} (hentries : roster.entries = first :: rest) :
    roster.drop first.id = { roster with entries := rest } := by
  have hdistinct := horderly.distinct
  rw [hentries, List.pairwise_cons] at hdistinct
  have hrest := filter_of_absent fun other hother => (hdistinct.1 other hother).symm
  rw [drop, hentries]
  congr 1
  simpa using hrest

end Roster

instance : SessionStore Registry where
  create := Registry.create
  remove := Registry.remove
  useSession := Registry.useSession
  recreate := Registry.recreate
  nextChunk := Registry.nextChunk
  clear := Registry.clear
  poison := Registry.poison

namespace Registry

section Handles

variable (registry : Registry) (id other : RequestId)

theorem contains_eq_isSome : registry.contains id = (registry.handle? id).isSome :=
  Std.HashMap.contains_eq_isSome_getElem?

theorem handle?_eq_none_iff : registry.handle? id = none ↔ registry.contains id = false := by
  rw [contains_eq_isSome, Option.isSome_eq_false_iff, Option.isNone_iff_eq_none]

theorem handle?_remove :
    (registry.remove id).2.handle? other =
      if id = other then none else registry.handle? other := by
  rw [handle?, remove, Std.HashMap.getElem?_erase, ← handle?]
  simp only [beq_iff_eq]

theorem contains_remove : (registry.remove id).2.contains id = false := by
  rw [← handle?_eq_none_iff, handle?_remove, if_pos rfl]

def enter (reference : Tokens) : Registry :=
  { registry with
    live := registry.live.insert id registry.cells.size
    cells := registry.cells.push
      { session :=
          .start id reference registry.backend registry.matching registry.cells.size } }

theorem handle?_enter (reference : Tokens) :
    (registry.enter id reference).handle? other =
      if id = other then some registry.cells.size else registry.handle? other := by
  rw [handle?, enter, Std.HashMap.getElem?_insert, ← handle?]
  simp only [beq_iff_eq]

end Handles

/-- The live sessions of the registry are those that the roster lists. -/
structure Lists (registry : Registry) (roster : Roster) : Prop where
  backend_eq : registry.backend = roster.backend
  matching_eq : registry.matching = roster.matching
  capacity_eq : registry.capacity = roster.capacity
  created_eq : registry.created = roster.next
  size_eq : registry.size = roster.entries.length
  handle_eq : ∀ id, registry.handle? id = roster.number? id
  cell_eq : ∀ entry ∈ roster.entries, registry.cells[entry.number]? = some entry.cell

variable {registry : Registry} {roster : Roster}

theorem lists_new (backend : Backend) (matching : MatchSettings) (maxSessions : Nat) :
    (new backend matching maxSessions).Lists (Roster.new backend matching maxSessions) where
  backend_eq := rfl
  matching_eq := rfl
  capacity_eq := Nat.max_comm _ _
  created_eq := rfl
  size_eq := size_new backend matching maxSessions
  handle_eq _ := Std.HashMap.getElem?_empty
  cell_eq _ hentry := nomatch hentry

theorem Lists.contains_eq (hlists : registry.Lists roster) (id : RequestId) :
    registry.contains id = (roster.number? id).isSome := by
  rw [← hlists.handle_eq, contains_eq_isSome]

theorem Lists.drop (hlists : registry.Lists roster) (horderly : roster.Orderly)
    (id : RequestId) :
    (registry.remove id).2.Lists (roster.drop id) where
  backend_eq := hlists.backend_eq
  matching_eq := hlists.matching_eq
  capacity_eq := hlists.capacity_eq
  created_eq := hlists.created_eq
  size_eq := by
    have hlive : id ∈ registry.live ↔ (roster.number? id).isSome := by
      rw [← hlists.handle_eq]
      exact Std.HashMap.mem_iff_isSome_getElem?
    have hsize : registry.live.size = roster.entries.length := hlists.size_eq
    rw [horderly.length_drop, size, remove, Std.HashMap.size_erase, hsize]
    exact if_congr hlive rfl rfl
  handle_eq other := by
    rw [handle?_remove, hlists.handle_eq, Roster.number?, Roster.number?, Roster.find?_drop]
    split
    · rfl
    · rfl
  cell_eq entry hentry := hlists.cell_eq entry (List.mem_filter.1 hentry).1

theorem Lists.alter (hlists : registry.Lists roster) {cells : Array SessionCell}
    {number : Nat} {change : SessionCell → SessionCell}
    (hsize : cells.size = registry.cells.size)
    (hcells : ∀ (index : Nat) (cell : SessionCell), registry.cells[index]? = some cell →
      cells[index]? = some (if index = number then change cell else cell)) :
    Lists { registry with cells } (roster.alter number change) where
  backend_eq := hlists.backend_eq
  matching_eq := hlists.matching_eq
  capacity_eq := hlists.capacity_eq
  created_eq := hsize.trans hlists.created_eq
  size_eq := by
    rw [Roster.alter, List.length_map]
    exact hlists.size_eq
  handle_eq id := (hlists.handle_eq id).trans (roster.number?_alter number change id).symm
  cell_eq := by
    intro entry hentry
    obtain ⟨earlier, hearlier, rfl⟩ := List.mem_map.1 hentry
    have hcell := hcells earlier.number earlier.cell (hlists.cell_eq earlier hearlier)
    by_cases hnumber : earlier.number = number
    · rwa [if_pos hnumber] at hcell ⊢
    · rwa [if_neg hnumber] at hcell ⊢

section Eviction

theorem foldl_olderEntry (entries : List (RequestId × Nat)) (first : RequestId × Nat) :
    ∃ oldest ∈ first :: entries, entries.foldl olderEntry (some first) = some oldest ∧
      ∀ entry ∈ first :: entries, oldest.2 ≤ entry.2 := by
  induction entries generalizing first with
  | nil =>
      refine ⟨first, List.mem_singleton_self _, rfl, ?_⟩
      intro entry hentry
      exact Nat.le_of_eq (congrArg Prod.snd (List.mem_singleton.1 hentry).symm)
  | cons second entries ih =>
      rw [List.foldl_cons, olderEntry]
      by_cases holder : second.2 < first.2
      · rw [if_pos holder]
        obtain ⟨oldest, holdest, hfold, hleast⟩ := ih second
        refine ⟨oldest, List.mem_cons_of_mem _ holdest, hfold, ?_⟩
        rw [List.forall_mem_cons]
        exact ⟨Nat.le_trans (hleast second List.mem_cons_self) (Nat.le_of_lt holder), hleast⟩
      · rw [if_neg holder]
        obtain ⟨oldest, holdest, hfold, hleast⟩ := ih first
        rw [List.forall_mem_cons] at hleast
        refine ⟨oldest, ?_, hfold, ?_⟩
        · rcases List.mem_cons.1 holdest with rfl | hlater
          · exact List.mem_cons_self
          · exact List.mem_cons_of_mem _ (List.mem_cons_of_mem _ hlater)
        · rw [List.forall_mem_cons, List.forall_mem_cons]
          exact ⟨hleast.1, Nat.le_trans hleast.1 (Nat.le_of_not_lt holder), hleast.2⟩

theorem Lists.oldest_eq (hlists : registry.Lists roster) (horderly : roster.Orderly)
    {first : RosterEntry} {rest : List RosterEntry}
    (hentries : roster.entries = first :: rest) : registry.oldest? = some first.id := by
  have hmember (id : RequestId) (number : Nat) :
      (id, number) ∈ registry.live.toList ↔ roster.number? id = some number := by
    rw [← hlists.handle_eq]
    exact Std.HashMap.mem_toList_iff_getElem?_eq_some
  have hfront : first ∈ roster.entries := hentries ▸ List.mem_cons_self
  have hlive : (first.id, first.number) ∈ registry.live.toList := by
    rw [hmember, Roster.number?, horderly.find?_of_mem hfront]
    rfl
  rw [oldest?]
  cases hlist : registry.live.toList with
  | nil =>
      rw [hlist] at hlive
      exact absurd hlive List.not_mem_nil
  | cons live others =>
      obtain ⟨oldest, holdest, hfold, hleast⟩ := foldl_olderEntry others live
      rw [← hlist] at holdest hleast
      obtain ⟨entry, hentry, hid, hnumber⟩ :=
        Roster.number?_eq_some ((hmember oldest.1 oldest.2).1 holdest)
      have hle : entry.number ≤ first.number := hnumber ▸ hleast _ hlive
      have hsame : entry = first := by
        have hascending := horderly.ascending
        rw [hentries, List.pairwise_cons] at hascending
        rcases List.mem_cons.1 (hentries ▸ hentry) with hhead | hlater
        · exact hhead
        · exact absurd (hascending.1 entry hlater) (Nat.not_lt.2 hle)
      change Option.map (·.1) (others.foldl olderEntry (some live)) = _
      rw [hfold, ← hsame, Option.map_some, hid]

theorem evict_of_room (hroom : registry.size < registry.capacity) :
    registry.evict = registry := by
  unfold evict
  exact if_neg (Nat.not_le.2 hroom)

theorem evict_of_full {id : RequestId} (hfull : registry.capacity ≤ registry.size)
    (holdest : registry.oldest? = some id)
    (hless : (registry.remove id).2.size < registry.size) :
    registry.evict = (registry.remove id).2.evict := by
  rw [evict, holdest]
  exact (if_pos hfull).trans (dif_pos hless)

/-- Although it loops, an eviction drops one session at most. -/
theorem Lists.evict (hlists : registry.Lists roster) (horderly : roster.Orderly) :
    registry.evict.Lists roster.makeRoom := by
  have hsize := hlists.size_eq
  have hcapacity := hlists.capacity_eq
  have hfits := horderly.fits
  unfold Roster.makeRoom
  split
  · rename_i hroom
    rw [evict_of_room (by omega)]
    exact hlists
  · rename_i hfull
    cases hentries : roster.entries with
    | nil =>
        rw [hentries] at hfull
        exact absurd horderly.room hfull
    | cons first rest =>
        have hdropped := hlists.drop horderly first.id
        rw [horderly.drop_head hentries] at hdropped
        have hrest : (registry.remove first.id).2.size = rest.length := hdropped.size_eq
        rw [hentries, List.length_cons] at hsize hfits hfull
        rw [evict_of_full (by omega) (hlists.oldest_eq horderly hentries) (by omega)]
        have hroom : (registry.remove first.id).2.size < registry.capacity := by omega
        rw [evict_of_room hroom]
        exact hdropped

end Eviction

section Events

theorem Lists.enter (hlists : registry.Lists roster) {id : RequestId}
    (habsent : roster.number? id = none) (reference : Tokens) :
    (registry.enter id reference).Lists (roster.enter id reference) where
  backend_eq := hlists.backend_eq
  matching_eq := hlists.matching_eq
  capacity_eq := hlists.capacity_eq
  created_eq := by
    rw [created, Registry.enter, Array.size_push]
    exact congrArg Nat.succ hlists.created_eq
  size_eq := by
    have hlive : id ∉ registry.live := by
      rw [Std.HashMap.mem_iff_isSome_getElem?]
      have hhandle : registry.live[id]? = none := (hlists.handle_eq id).trans habsent
      simp [hhandle]
    have hsize : registry.live.size = roster.entries.length := hlists.size_eq
    rw [size, Registry.enter, Std.HashMap.size_insert, if_neg hlive, hsize, Roster.enter,
      List.length_append, List.length_singleton]
  handle_eq other := by
    have hcreated : registry.cells.size = roster.next := hlists.created_eq
    rw [handle?_enter, hlists.handle_eq, hcreated, Roster.number?_enter]
    by_cases hsame : id = other
    · rw [← hsame, habsent]
      simp
    · simp [hsame]
  cell_eq := by
    have hcreated : registry.cells.size = roster.next := hlists.created_eq
    intro entry hentry
    rcases List.mem_append.1 hentry with hold | hnew
    · have hcell := hlists.cell_eq entry hold
      have hissued : entry.number ≠ registry.cells.size := by
        intro hnumber
        rw [hnumber, Array.getElem?_size] at hcell
        cases hcell
      rw [Registry.enter, Array.getElem?_push, if_neg hissued]
      exact hcell
    · rw [List.mem_singleton.1 hnew, Registry.enter, Array.getElem?_push,
        if_pos hcreated.symm, hcreated, hlists.backend_eq, hlists.matching_eq]

theorem Lists.create (hlists : registry.Lists roster) (horderly : roster.Orderly)
    (id : RequestId) (reference : Tokens) :
    (registry.create id reference).1 = (roster.create id reference).1 ∧
      (registry.create id reference).2.Lists (roster.create id reference).2 := by
  rw [Registry.create, hlists.contains_eq, Roster.create, Roster.number?]
  cases hfind : roster.find? id with
  | some entry => exact ⟨rfl, hlists⟩
  | none =>
      have habsent : roster.makeRoom.number? id = none := by
        rw [Roster.number?, Roster.find?_makeRoom_eq_none hfind]
        rfl
      exact ⟨rfl, (hlists.evict horderly).enter habsent reference⟩

theorem Lists.remove (hlists : registry.Lists roster) (horderly : roster.Orderly)
    (id : RequestId) :
    (registry.remove id).1 = (roster.remove id).1 ∧
      (registry.remove id).2.Lists (roster.remove id).2 := by
  refine ⟨?_, hlists.drop horderly id⟩
  rw [Registry.remove, hlists.contains_eq, Roster.number?, Option.isSome_map]
  rfl

theorem Lists.clear (hlists : registry.Lists roster) :
    registry.clear.Lists roster.clear where
  backend_eq := hlists.backend_eq
  matching_eq := hlists.matching_eq
  capacity_eq := hlists.capacity_eq
  created_eq := hlists.created_eq
  size_eq := Std.HashMap.size_empty
  handle_eq _ := Std.HashMap.getElem?_empty
  cell_eq _ hentry := nomatch hentry

theorem Lists.poison (hlists : registry.Lists roster) (number : Nat) :
    (registry.poison number).Lists (roster.poison number) := by
  apply hlists.alter Array.size_modify
  intro index cell hcell
  rw [Array.getElem?_modify, hcell]
  by_cases hsame : number = index
  · rw [if_pos hsame, if_pos hsame.symm]
    rfl
  · rw [if_neg hsame, if_neg (Ne.symm hsame)]

theorem Lists.setCell (hlists : registry.Lists roster) (number : Nat) (cell : SessionCell) :
    Lists { registry with cells := registry.cells.setIfInBounds number cell }
      (roster.alter number fun _ => cell) := by
  apply hlists.alter Array.size_setIfInBounds
  intro index earlier hearlier
  obtain ⟨hbound, -⟩ := Array.getElem?_eq_some_iff.1 hearlier
  rw [Array.getElem?_setIfInBounds]
  by_cases hsame : number = index
  · rw [if_pos hsame, if_pos (hsame ▸ hbound), if_pos hsame.symm]
  · rw [if_neg hsame, if_neg (Ne.symm hsame), hearlier]

theorem Lists.useSession (hlists : registry.Lists roster) (horderly : roster.Orderly)
    (id : RequestId) (change : Session → α × Session) :
    (registry.useSession id change).1 = (roster.useSession id change).1 ∧
      (registry.useSession id change).2.Lists (roster.useSession id change).2 := by
  rw [Registry.useSession, Roster.useSession, hlists.handle_eq, Roster.number?]
  cases hfind : roster.find? id with
  | none => exact ⟨rfl, hlists⟩
  | some entry =>
      have hcell := hlists.cell_eq entry (List.mem_of_find?_eq_some hfind)
      rw [Option.map_some]
      dsimp only
      rw [useHandle, hcell]
      dsimp only
      cases entry.cell.poisoned with
      | true => exact ⟨rfl, hlists.drop horderly id⟩
      | false => exact ⟨rfl, hlists.setCell entry.number _⟩

theorem nextChunk_eq (registry : Registry) (id : RequestId) (generated : Tokens)
    (maxLength : Nat) :
    registry.nextChunk id generated maxLength =
      ((registry.useSession id (·.nextChunk generated maxLength)).1.bind fun chunk => chunk,
        (registry.useSession id (·.nextChunk generated maxLength)).2) := by
  unfold nextChunk
  split
  · rename_i huse
    rw [huse]
    rfl
  · rename_i huse
    rw [huse]
    rfl

theorem Lists.nextChunk (hlists : registry.Lists roster) (horderly : roster.Orderly)
    (id : RequestId) (generated : Tokens) (maxLength : Nat) :
    (registry.nextChunk id generated maxLength).1 =
        (roster.nextChunk id generated maxLength).1 ∧
      (registry.nextChunk id generated maxLength).2.Lists
        (roster.nextChunk id generated maxLength).2 := by
  obtain ⟨hanswer, hlists⟩ :=
    hlists.useSession horderly id (·.nextChunk generated maxLength)
  rw [nextChunk_eq, hanswer]
  exact ⟨rfl, hlists⟩

theorem Lists.handle (hlists : registry.Lists roster) (horderly : roster.Orderly)
    (event : SessionEvent α) :
    (SessionStore.handle registry event).1 = (SessionStore.handle roster event).1 ∧
      (SessionStore.handle registry event).2.Lists (SessionStore.handle roster event).2 := by
  cases event with
  | create id reference =>
      obtain ⟨hanswer, hlists⟩ := hlists.create horderly id reference
      exact ⟨congrArg SessionAnswer.done hanswer, hlists⟩
  | remove id =>
      obtain ⟨hanswer, hlists⟩ := hlists.remove horderly id
      exact ⟨congrArg SessionAnswer.removed hanswer, hlists⟩
  | recreate id =>
      obtain ⟨hanswer, hlists⟩ :=
        hlists.useSession horderly id fun session => ((), session.restart)
      exact ⟨congrArg SessionAnswer.done hanswer, hlists⟩
  | nextChunk id generated maxLength =>
      obtain ⟨hanswer, hlists⟩ := hlists.nextChunk horderly id generated maxLength
      exact ⟨congrArg SessionAnswer.chunk hanswer, hlists⟩
  | use id change =>
      obtain ⟨hanswer, hlists⟩ := hlists.useSession horderly id change
      exact ⟨congrArg SessionAnswer.used hanswer, hlists⟩
  | clear => exact ⟨rfl, hlists.clear⟩
  | poison number => exact ⟨rfl, hlists.poison number⟩

theorem Lists.run (hlists : registry.Lists roster) (horderly : roster.Orderly)
    (events : List (SessionEvent α)) :
    (SessionStore.run registry events).1 = (SessionStore.run roster events).1 ∧
      (SessionStore.run registry events).2.Lists (SessionStore.run roster events).2 := by
  induction events generalizing registry roster with
  | nil => exact ⟨rfl, hlists⟩
  | cons event events ih =>
      obtain ⟨hanswer, hlists⟩ := hlists.handle horderly event
      obtain ⟨hanswers, hlists⟩ := ih hlists (horderly.handle event)
      exact ⟨congrArg₂ List.cons hanswer hanswers, hlists⟩

end Events

/-- Whatever happens, the live sessions are those of a list in order of creation. -/
theorem amounts_to_roster (backend : Backend) (matching : MatchSettings) (maxSessions : Nat)
    (earlier later : List (SessionEvent α)) :
    let registry := SessionStore.run (new backend matching maxSessions) (earlier ++ later)
    let roster := SessionStore.run (Roster.new backend matching maxSessions) (earlier ++ later)
    registry.1 = roster.1 ∧ registry.2.Lists roster.2 ∧
      roster.2.Orderly ∧ roster.2.capacity = max 1 maxSessions ∧
      (SessionStore.run (Roster.new backend matching maxSessions) earlier).2.Precedes
        roster.2 ∧
      ((∀ event ∈ earlier ++ later, event.KeepsNumbers) → roster.2.Numbered) := by
  have horderly := Roster.orderly_new backend matching maxSessions
  have hlists := lists_new backend matching maxSessions
  obtain ⟨hanswers, hlisted⟩ := hlists.run horderly (earlier ++ later)
  have hcapacity := (Roster.precedes_run (Roster.new backend matching maxSessions)
    (earlier ++ later)).capacity_eq
  refine ⟨hanswers, hlisted, horderly.run _, hcapacity, ?_, fun hkeep =>
    (Roster.numbered_new backend matching maxSessions).run hkeep⟩
  rw [SessionStore.run_append]
  exact Roster.precedes_run _ later

/-- With room for one session, a new one takes the place of the old. -/
theorem amounts_to_roster_replacing :
    let events : List (SessionEvent Unit) :=
      [.create "a" [1, 2], .create "b" [3], .use "b" fun session => ((), session.restart)]
    let registry := (SessionStore.run (new .sequential {} 0) events).2
    let roster := (SessionStore.run (Roster.new .sequential {} 0) events).2
    (∀ event ∈ events, event.KeepsNumbers) ∧ roster.Numbered ∧
      registry.handle? "a" = none ∧ registry.handle? "b" = some 1 := by
  intro events registry roster
  have hkeep : ∀ event ∈ events, event.KeepsNumbers := by
    simp [events, SessionEvent.KeepsNumbers, Session.restart]
  obtain ⟨-, hlists, -, -, -, hnumbered⟩ :=
    amounts_to_roster .sequential {} 0 events []
  refine ⟨hkeep, hnumbered hkeep, (hlists.handle_eq "a").trans ?_,
    (hlists.handle_eq "b").trans ?_⟩
  · decide
  · decide

end Registry

end Redraft
