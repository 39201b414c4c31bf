import Redraft.Proofs.Registry.Handles

namespace Redraft

namespace Registry

variable {α : Type} {registry left right : Registry} {id other : RequestId}

/-- Whatever session is live under a name was created under it. -/
def Owned (registry : Registry) : Prop :=
  ∀ id number, registry.handle? id = some number →
    registry.cells[number]?.map (·.session.id) = some id

theorem owned_new (backend : Backend) (matching : MatchSettings) (maxSessions : Nat) :
    (new backend matching maxSessions).Owned := by
  intro id number hnumber
  have hnone : (new backend matching maxSessions).handle? id = none :=
    Std.HashMap.getElem?_empty
  rw [hnone] at hnumber
  cases hnumber

theorem Owned.mono (howned : left.Owned)
    (hhandles : ∀ {id number}, right.handle? id = some number → left.handle? id = some number)
    (howners : ∀ number : Nat,
      right.cells[number]?.map (·.session.id) = left.cells[number]?.map (·.session.id)) :
    right.Owned := by
  intro id number hnumber
  rw [howners]
  exact howned id number (hhandles hnumber)

theorem handle?_of_remove {number : Nat}
    (hnumber : (registry.remove id).2.handle? other = some number) :
    registry.handle? other = some number := by
  rw [handle?_remove] at hnumber
  split at hnumber
  · cases hnumber
  · exact hnumber

theorem handle?_of_evict {number : Nat} (hnumber : registry.evict.handle? other = some number) :
    registry.handle? other = some number := by
  fun_induction evict registry with
  | case1 registry => exact hnumber
  | case2 registry _ id _ rest _ ih => exact handle?_of_remove (ih hnumber)
  | case3 registry => exact hnumber
  | case4 registry => exact hnumber

theorem Owned.remove (howned : registry.Owned) (id : RequestId) :
    (registry.remove id).2.Owned :=
  howned.mono handle?_of_remove fun _ => rfl

theorem Owned.clear (howned : registry.Owned) : registry.clear.Owned := by
  refine howned.mono ?_ fun _ => rfl
  intro id number hnumber
  have hnone : registry.clear.handle? id = none := Std.HashMap.getElem?_empty
  rw [hnone] at hnumber
  cases hnumber

theorem Owned.poison (howned : registry.Owned) (number : Nat) : (registry.poison number).Owned :=
  howned.mono (fun hnumber => hnumber)
    (Desk.writes_modify (fun cell => { cell with poisoned := true }) fun _ => rfl).owner_eq

theorem Owned.create (howned : registry.Owned) (id : RequestId) (reference : Tokens) :
    (registry.create id reference).2.Owned := by
  rw [Registry.create]
  split
  · exact howned
  · obtain ⟨live, hevict⟩ := evict_live registry
    have hrest : registry.evict.Owned := by
      refine howned.mono handle?_of_evict fun _ => ?_
      rw [hevict]
    change (registry.evict.enter id reference).Owned
    intro other number hnumber
    rw [handle?_enter] at hnumber
    rw [enter]
    split at hnumber
    · rename_i hsame
      rw [← Option.some.inj hnumber, Array.getElem?_push_size]
      exact congrArg some hsame
    · have howner := hrest other number hnumber
      obtain ⟨cell, hcell, -⟩ := Option.map_eq_some_iff.1 howner
      have hold := (Array.getElem?_eq_some_iff.1 hcell).1
      rw [Array.getElem?_push, if_neg (Nat.ne_of_lt hold)]
      exact howner

theorem Owned.useHandle (howned : registry.Owned) (number : Nat)
    {change : Session → α × Session} (hid : ∀ session, (change session).2.id = session.id) :
    (registry.useHandle number change).2.Owned := by
  obtain ⟨cells, huse, hwrites⟩ := Desk.useHandle_writes registry number hid
  rw [huse]
  exact howned.mono (fun hnumber => hnumber) hwrites.owner_eq

theorem Owned.useSession_cases (howned : registry.Owned) (id : RequestId)
    (change : Session → α × Session) :
    registry.handle? id = none ∧
        registry.useSession id change = (.error (.notFound id), registry) ∨
      ∃ number cell, registry.handle? id = some number ∧
        registry.cells[number]? = some cell ∧ cell.session.id = id ∧
          registry.useSession id change =
            if cell.poisoned then (.error (.poisoned id), (registry.remove id).2)
            else (.ok (change cell.session).1,
              { registry with
                cells := registry.cells.setIfInBounds number
                  { session := (change cell.session).2 } }) := by
  rw [Registry.useSession]
  cases hnumber : registry.handle? id with
  | none => exact .inl ⟨rfl, rfl⟩
  | some number =>
      obtain ⟨cell, hcell, hid⟩ := Option.map_eq_some_iff.1 (howned id number hnumber)
      refine .inr ⟨number, cell, rfl, hcell, hid, ?_⟩
      dsimp only
      rw [Registry.useHandle, hcell]
      dsimp only
      cases cell.poisoned <;> rfl

theorem Owned.useSession (howned : registry.Owned) (id : RequestId)
    {change : Session → α × Session} (hid : ∀ session, (change session).2.id = session.id) :
    (registry.useSession id change).2.Owned := by
  rcases howned.useSession_cases id change with ⟨-, huse⟩ | ⟨number, cell, -, hcell, -, huse⟩
  · rw [huse]
    exact howned
  · rw [huse]
    split
    · exact howned.remove id
    · exact howned.mono (fun hnumber => hnumber)
        (Desk.writes_setIfInBounds _ hcell (hid cell.session)).owner_eq

/-- Two registries that a request cannot tell apart. -/
structure Agree (id : RequestId) (left right : Registry) : Prop where
  backend_eq : right.backend = left.backend
  matching_eq : right.matching = left.matching
  capacity_eq : right.capacity = left.capacity
  handle_eq : right.handle? id = left.handle? id
  cell_iff : ∀ (number : Nat) cell, cell.session.id = id →
    (right.cells[number]? = some cell ↔ left.cells[number]? = some cell)

theorem Agree.refl (id : RequestId) (registry : Registry) : Agree id registry registry :=
  ⟨rfl, rfl, rfl, rfl, fun _ _ _ => Iff.rfl⟩

theorem Agree.symm (hagree : Agree id left right) : Agree id right left :=
  ⟨hagree.backend_eq.symm, hagree.matching_eq.symm, hagree.capacity_eq.symm,
    hagree.handle_eq.symm, fun number cell hid => (hagree.cell_iff number cell hid).symm⟩

theorem Agree.trans {middle : Registry} (hfirst : Agree id left middle)
    (hsecond : Agree id middle right) : Agree id left right :=
  ⟨hsecond.backend_eq.trans hfirst.backend_eq, hsecond.matching_eq.trans hfirst.matching_eq,
    hsecond.capacity_eq.trans hfirst.capacity_eq, hsecond.handle_eq.trans hfirst.handle_eq,
    fun number cell hid => (hsecond.cell_iff number cell hid).trans
      (hfirst.cell_iff number cell hid)⟩

theorem Agree.remove (hagree : Agree id left right) (gone : RequestId) :
    Agree id (left.remove gone).2 (right.remove gone).2 where
  backend_eq := hagree.backend_eq
  matching_eq := hagree.matching_eq
  capacity_eq := hagree.capacity_eq
  handle_eq := by rw [handle?_remove, handle?_remove, hagree.handle_eq]
  cell_iff := hagree.cell_iff

theorem agree_remove (registry : Registry) (hother : id ≠ other) :
    Agree other registry (registry.remove id).2 where
  backend_eq := rfl
  matching_eq := rfl
  capacity_eq := rfl
  handle_eq := (handle?_remove ..).trans (if_neg hother)
  cell_iff _ _ _ := Iff.rfl

theorem agree_setIfInBounds {number : Nat} {cell written : SessionCell}
    (hcell : registry.cells[number]? = some cell) (hid : cell.session.id ≠ other)
    (hwritten : written.session.id ≠ other) :
    Agree other registry
      { registry with cells := registry.cells.setIfInBounds number written } where
  backend_eq := rfl
  matching_eq := rfl
  capacity_eq := rfl
  handle_eq := rfl
  cell_iff index kept hkept := by
    rw [Array.getElem?_setIfInBounds]
    split
    · rename_i hsame
      subst hsame
      rw [if_pos (Array.getElem?_eq_some_iff.1 hcell).1, hcell]
      -- The cell was not one of `other` before it was written, and is not now.
      refine iff_of_false ?_ ?_
      · rintro ⟨⟩
        exact hwritten hkept
      · rintro ⟨⟩
        exact hid hkept
    · rfl

theorem Agree.setIfInBounds (hagree : Agree id left right) {number : Nat} {cell : SessionCell}
    (hcell : left.cells[number]? = some cell) (hid : cell.session.id = id)
    (written : SessionCell) :
    Agree id { left with cells := left.cells.setIfInBounds number written }
      { right with cells := right.cells.setIfInBounds number written } where
  backend_eq := hagree.backend_eq
  matching_eq := hagree.matching_eq
  capacity_eq := hagree.capacity_eq
  handle_eq := hagree.handle_eq
  cell_iff index kept hkept := by
    have hcell' := (hagree.cell_iff number cell hid).2 hcell
    rw [Array.getElem?_setIfInBounds, Array.getElem?_setIfInBounds]
    split
    · rw [if_pos (Array.getElem?_eq_some_iff.1 hcell).1,
        if_pos (Array.getElem?_eq_some_iff.1 hcell').1]
    · exact hagree.cell_iff index kept hkept

theorem Owned.agree_useSession (howned : registry.Owned) (hother : id ≠ other)
    {change : Session → α × Session} (hid : ∀ session, (change session).2.id = session.id) :
    Agree other registry (registry.useSession id change).2 := by
  rcases howned.useSession_cases id change with
    ⟨-, huse⟩ | ⟨number, cell, -, hcell, howner, huse⟩
  · rw [huse]
    exact Agree.refl other registry
  · rw [huse]
    subst howner
    split
    · exact agree_remove registry hother
    · refine agree_setIfInBounds hcell hother ?_
      rw [hid]
      exact hother

theorem Agree.useSession (hagree : Agree id left right) (hleft : left.Owned)
    (hright : right.Owned) (change : Session → α × Session) :
    (right.useSession id change).1 = (left.useSession id change).1 ∧
      Agree id (left.useSession id change).2 (right.useSession id change).2 := by
  rcases hleft.useSession_cases id change with
    ⟨hnone, huse⟩ | ⟨number, cell, hnumber, hcell, hid, huse⟩
  · rcases hright.useSession_cases id change with ⟨-, huse'⟩ | ⟨_, _, hnumber', -⟩
    · rw [huse, huse']
      exact ⟨rfl, hagree⟩
    · rw [hagree.handle_eq, hnone] at hnumber'
      cases hnumber'
  · rcases hright.useSession_cases id change with
      ⟨hnone', -⟩ | ⟨number', cell', hnumber', hcell', -, huse'⟩
    · rw [hagree.handle_eq, hnumber] at hnone'
      cases hnone'
    · rw [hagree.handle_eq, hnumber] at hnumber'
      cases hnumber'
      rw [(hagree.cell_iff number cell hid).2 hcell] at hcell'
      cases hcell'
      rw [huse, huse']
      cases cell.poisoned with
      | true => exact ⟨rfl, hagree.remove id⟩
      | false => exact ⟨rfl, hagree.setIfInBounds hcell hid _⟩

structure SameSessions (left right : Registry) : Prop where
  backend_eq : right.backend = left.backend
  matching_eq : right.matching = left.matching
  capacity_eq : right.capacity = left.capacity
  handle_eq : ∀ id, right.handle? id = left.handle? id
  cells_eq : right.cells = left.cells

theorem sameSessions_of_agree (hagree : ∀ id, Agree id left right) : SameSessions left right where
  backend_eq := (hagree "").backend_eq
  matching_eq := (hagree "").matching_eq
  capacity_eq := (hagree "").capacity_eq
  handle_eq id := (hagree id).handle_eq
  cells_eq := by
    apply Array.ext_getElem?
    intro number
    apply Option.ext
    intro cell
    exact (hagree cell.session.id).cell_iff number cell rfl

end Registry

end Redraft
