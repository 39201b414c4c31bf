import Mathlib.Data.List.Forall2
import Redraft.Proofs.Registry.Handles

namespace Redraft

variable {α β : Type}

def Session.unnumbered (session : Session) : Session := { session with number := 0 }

def SessionCell.unnumbered (cell : SessionCell) : SessionCell :=
  { cell with session := cell.session.unnumbered }

def Reply.unnumbered : Reply → Reply
  | state result => state (result.map Session.unnumbered)
  | heldState result => heldState (result.map Session.unnumbered)
  | reply => reply

/-- What is done with a session does not depend on its number, and its answer does not apart
from what is erased. -/
structure Blind (erase : α → β) (change : Session → α × Session) : Prop where
  answer_eq : ∀ session, erase (change session.unnumbered).1 = erase (change session).1
  session_eq : ∀ session,
    (change session.unnumbered).2.unnumbered = (change session).2.unnumbered
  id_eq : ∀ session, (change session).2.id = session.id

theorem blind_nextChunk (generated : Tokens) (maxLength : Nat) :
    Blind id (Session.nextChunk · generated maxLength) := by
  have hboth (session : Session) :
      (session.unnumbered.nextChunk generated maxLength).1 =
          (session.nextChunk generated maxLength).1 ∧
        (session.unnumbered.nextChunk generated maxLength).2.unnumbered =
          (session.nextChunk generated maxLength).2.unnumbered := by
    have hextends : session.unnumbered.isExtendedBy generated =
        session.isExtendedBy generated := rfl
    rw [Session.nextChunk, Session.nextChunk, hextends]
    split
    · exact ⟨rfl, rfl⟩
    · exact ⟨rfl, rfl⟩
  exact ⟨fun session => (hboth session).1, fun session => (hboth session).2,
    (Session.id_nextChunk · generated maxLength)⟩

theorem blind_restart : Blind id fun session : Session => ((), session.restart) where
  answer_eq _ := rfl
  session_eq _ := rfl
  id_eq _ := rfl

theorem blind_read : Blind Session.unnumbered fun session : Session => (session, session) where
  answer_eq _ := rfl
  session_eq _ := rfl
  id_eq _ := rfl

namespace Desk

section Mirrors

/-- The cells of one request among those of all, in the order of their creation: the cells
that there are if only this request is served. -/
structure Mirrors (id : RequestId) (places : List Nat) (full alone : Array SessionCell) :
    Prop where
  size_eq : alone.size = places.length
  nodup : places.Nodup
  cell_eq : ∀ index number : Nat, places[index]? = some number →
    alone[index]?.map (·.unnumbered) = full[number]?.map (·.unnumbered)
  owner_eq : ∀ number ∈ places, full[number]?.map (·.session.id) = some id

variable {id : RequestId} {places : List Nat} {full alone later laterAlone : Array SessionCell}
  {index number : Nat}

theorem Mirrors.lt_size (hmirrors : Mirrors id places full alone) (hnumber : number ∈ places) :
    number < full.size := by
  obtain ⟨cell, hcell, -⟩ := Option.map_eq_some_iff.1 (hmirrors.owner_eq number hnumber)
  exact (Array.getElem?_eq_some_iff.1 hcell).1

theorem Mirrors.of_foreign (hmirrors : Mirrors id places full alone)
    (hsame : ∀ number ∈ places, later[number]? = full[number]?) :
    Mirrors id places later alone where
  size_eq := hmirrors.size_eq
  nodup := hmirrors.nodup
  cell_eq index number hindex := by
    rw [hsame number (List.mem_of_getElem? hindex)]
    exact hmirrors.cell_eq index number hindex
  owner_eq number hnumber := by
    rw [hsame number hnumber]
    exact hmirrors.owner_eq number hnumber

theorem Mirrors.push_foreign (hmirrors : Mirrors id places full alone) (cell : SessionCell) :
    Mirrors id places (full.push cell) alone := by
  refine hmirrors.of_foreign fun number hnumber => ?_
  rw [Array.getElem?_push, if_neg (Nat.ne_of_lt (hmirrors.lt_size hnumber))]

theorem Mirrors.push (hmirrors : Mirrors id places full alone) {cell copy : SessionCell}
    (hcopy : copy.unnumbered = cell.unnumbered) (hid : cell.session.id = id) :
    Mirrors id (places ++ [full.size]) (full.push cell) (alone.push copy) where
  size_eq := by
    rw [Array.size_push, List.length_append, hmirrors.size_eq, List.length_singleton]
  nodup := by
    rw [List.nodup_append]
    refine ⟨hmirrors.nodup, List.pairwise_singleton _ _, fun number hnumber other hother => ?_⟩
    rw [List.mem_singleton.1 hother]
    exact Nat.ne_of_lt (hmirrors.lt_size hnumber)
  cell_eq index number hindex := by
    rw [List.getElem?_append] at hindex
    split at hindex
    · rename_i hold
      have hnumber := hmirrors.lt_size (List.mem_of_getElem? hindex)
      rw [Array.getElem?_push, if_neg (hmirrors.size_eq ▸ Nat.ne_of_lt hold),
        Array.getElem?_push, if_neg (Nat.ne_of_lt hnumber)]
      exact hmirrors.cell_eq index number hindex
    · rename_i hnew
      rw [List.getElem?_singleton] at hindex
      split at hindex
      · rename_i hlast
        have hsize : index = alone.size := by
          rw [hmirrors.size_eq]
          omega
        rw [hsize, ← Option.some.inj hindex, Array.getElem?_push_size,
          Array.getElem?_push_size, Option.map_some, hcopy]
        rfl
      · cases hindex
  owner_eq number hnumber := by
    rcases List.mem_append.1 hnumber with hold | hnew
    · rw [Array.getElem?_push, if_neg (Nat.ne_of_lt (hmirrors.lt_size hold))]
      exact hmirrors.owner_eq number hold
    · rw [List.mem_singleton.1 hnew, Array.getElem?_push_size, Option.map_some, hid]

theorem Mirrors.exists_cell (hmirrors : Mirrors id places full alone)
    (hplace : places[index]? = some number) :
    ∃ cell copy, full[number]? = some cell ∧ alone[index]? = some copy ∧
      copy.unnumbered = cell.unnumbered := by
  obtain ⟨cell, hcell, -⟩ :=
    Option.map_eq_some_iff.1 (hmirrors.owner_eq number (List.mem_of_getElem? hplace))
  have hsame := hmirrors.cell_eq index number hplace
  rw [hcell, Option.map_some] at hsame
  obtain ⟨copy, hcopy, hsame⟩ := Option.map_eq_some_iff.1 hsame
  exact ⟨cell, copy, hcell, hcopy, hsame⟩

theorem Mirrors.writes (hmirrors : Mirrors id places full alone)
    (hplace : places[index]? = some number) (hfull : Writes number full later)
    (halone : Writes index alone laterAlone)
    (hwritten : laterAlone[index]?.map (·.unnumbered) = later[number]?.map (·.unnumbered)) :
    Mirrors id places later laterAlone where
  size_eq := halone.size_eq.trans hmirrors.size_eq
  nodup := hmirrors.nodup
  cell_eq other otherNumber hother := by
    by_cases hsame : other = index
    · subst hsame
      rw [hplace, Option.some.injEq] at hother
      rw [← hother, hwritten]
    · have hdiffer : otherNumber ≠ number := by
        intro heq
        obtain ⟨hbound, -⟩ := List.getElem?_eq_some_iff.1 hother
        rw [heq, ← hplace] at hother
        exact hsame ((List.getElem?_inj hbound hmirrors.nodup).1 hother)
      rw [halone.others_eq other hsame, hfull.others_eq otherNumber hdiffer]
      exact hmirrors.cell_eq other otherNumber hother
  owner_eq other hother := by
    rw [hfull.owner_eq]
    exact hmirrors.owner_eq other hother

end Mirrors

section Shadows

def Names (places : List Nat) (index number : Nat) : Prop := places[index]? = some number

/-- A desk that serves one request only has what a desk that serves many has of it. -/
structure Shadows (id : RequestId) (places : List Nat) (full alone : Desk) : Prop where
  backend_eq : alone.registry.backend = full.registry.backend
  matching_eq : alone.registry.matching = full.registry.matching
  room : 0 < alone.registry.capacity
  cells : Mirrors id places full.registry.cells alone.registry.cells
  live : Option.Rel (Names places) (alone.registry.handle? id) (full.registry.handle? id)
  kept : List.Forall₂ (Names places) (alone.kept id) (full.kept id)
  only : ∀ other, other ≠ id → alone.registry.handle? other = none

variable {id : RequestId} {places : List Nat} {full alone later : Desk} {operation : Operation}
  {index number : Nat}

theorem shadows_new (id : RequestId) (backend : Backend) (matching : MatchSettings)
    (maxSessions : Nat) :
    Shadows id [] (new backend matching maxSessions) (new backend matching maxSessions) where
  backend_eq := rfl
  matching_eq := rfl
  room := Nat.lt_of_lt_of_le Nat.zero_lt_one (Nat.le_max_right _ _)
  cells := ⟨rfl, .nil, fun _ _ hplace => (nomatch hplace), fun _ hnumber => nomatch hnumber⟩
  live := by
    have hnone : (new backend matching maxSessions).registry.handle? id = none :=
      Std.HashMap.getElem?_empty
    rw [hnone]
    exact .none
  kept := .nil
  only _ _ := Std.HashMap.getElem?_empty

theorem Shadows.effect_foreign (hshadows : Shadows id places full alone) (howned : full.Owned)
    (heffect : Effect operation full later) (hforeign : operation.id ≠ id) :
    Shadows id places later alone := by
  cases heffect with
  | nothing => exact hshadows
  | enters reference hcreates habsent =>
      refine { hshadows with cells := hshadows.cells.push_foreign _, live := ?_ }
      rw [Registry.handle?_enter, if_neg hforeign]
      exact hshadows.live
  | leaves =>
      refine { hshadows with live := ?_ }
      rw [Registry.handle?_remove, if_neg hforeign]
      exact hshadows.live
  | writes written cells hreaches hwrites =>
      -- A cell of ours that is written would belong to both requests.
      refine { hshadows with cells := hshadows.cells.of_foreign fun number hnumber => ?_ }
      refine hwrites.others_eq number fun hsame => hforeign ?_
      have howner := hshadows.cells.owner_eq number hnumber
      rw [hsame, howned operation.id written hreaches] at howner
      exact Option.some.inj howner
  | keeps kept hlive =>
      refine { hshadows with kept := ?_ }
      rw [keep]
      dsimp only
      rw [if_neg (Ne.symm hforeign)]
      exact hshadows.kept

theorem Shadows.handle?_cases (hshadows : Shadows id places full alone) :
    (alone.registry.handle? id = none ∧ full.registry.handle? id = none) ∨
      ∃ index number, places[index]? = some number ∧
        alone.registry.handle? id = some index ∧ full.registry.handle? id = some number := by
  have hlive := hshadows.live
  cases halone : alone.registry.handle? id with
  | none =>
      rw [halone] at hlive
      cases hfull : full.registry.handle? id with
      | none => exact .inl ⟨rfl, rfl⟩
      | some number =>
          rw [hfull] at hlive
          cases hlive
  | some index =>
      rw [halone] at hlive
      cases hfull : full.registry.handle? id with
      | none =>
          rw [hfull] at hlive
          cases hlive
      | some number =>
          rw [hfull] at hlive
          cases hlive with
          | some hplace => exact .inr ⟨index, number, hplace, rfl, rfl⟩

theorem Shadows.useHandle (hshadows : Shadows id places full alone)
    (hplace : places[index]? = some number) {erase : α → β} {change : Session → α × Session}
    (hblind : Blind erase change) :
    (alone.registry.useHandle index change).1.map erase =
        (full.registry.useHandle number change).1.map erase ∧
      Shadows id places
        { full with registry := (full.registry.useHandle number change).2 }
        { alone with registry := (alone.registry.useHandle index change).2 } := by
  obtain ⟨cell, copy, hcell, hcopy, hsame⟩ := hshadows.cells.exists_cell hplace
  have hpoisoned : copy.poisoned = cell.poisoned := congrArg (·.poisoned) hsame
  have hsession : copy.session.unnumbered = cell.session.unnumbered :=
    congrArg (·.session) hsame
  rw [Registry.useHandle, Registry.useHandle, hcell, hcopy]
  dsimp only
  rw [hpoisoned]
  cases cell.poisoned with
  | true => exact ⟨rfl, hshadows⟩
  | false =>
      constructor
      · refine congrArg some ?_
        rw [← hblind.answer_eq, hsession, hblind.answer_eq]
      · have hcells := hshadows.cells.writes hplace
          (writes_setIfInBounds { session := (change cell.session).2 } hcell
            (hblind.id_eq cell.session))
          (writes_setIfInBounds { session := (change copy.session).2 } hcopy
            (hblind.id_eq copy.session))
        refine { hshadows with cells := hcells ?_ }
        have hafter : (change copy.session).2.unnumbered =
            (change cell.session).2.unnumbered := by
          rw [← hblind.session_eq, hsession, hblind.session_eq]
        rw [Array.getElem?_setIfInBounds_self_of_lt (Array.getElem?_eq_some_iff.1 hcell).1,
          Array.getElem?_setIfInBounds_self_of_lt (Array.getElem?_eq_some_iff.1 hcopy).1,
          Option.map_some, Option.map_some, SessionCell.unnumbered, SessionCell.unnumbered,
          hafter]

theorem Shadows.leaves (hshadows : Shadows id places full alone) :
    Shadows id places { full with registry := (full.registry.remove id).2 }
      { alone with registry := (alone.registry.remove id).2 } := by
  refine { hshadows with live := ?_, only := fun other hother => ?_ }
  · rw [Registry.handle?_remove, Registry.handle?_remove, if_pos rfl, if_pos rfl]
    exact .none
  · rw [Registry.handle?_remove, if_neg (Ne.symm hother)]
    exact hshadows.only other hother

theorem Shadows.useSession (hshadows : Shadows id places full alone) {erase : α → β}
    {change : Session → α × Session} (hblind : Blind erase change) :
    (alone.registry.useSession id change).1.map erase =
        (full.registry.useSession id change).1.map erase ∧
      Shadows id places
        { full with registry := (full.registry.useSession id change).2 }
        { alone with registry := (alone.registry.useSession id change).2 } := by
  rw [Registry.useSession, Registry.useSession]
  rcases hshadows.handle?_cases with ⟨halone, hfull⟩ | ⟨index, number, hplace, halone, hfull⟩
  · rw [halone, hfull]
    exact ⟨rfl, hshadows⟩
  · rw [halone, hfull]
    dsimp only
    obtain ⟨hanswer, hafter⟩ := hshadows.useHandle hplace hblind
    generalize full.registry.useHandle number change = ours at hanswer hafter
    generalize alone.registry.useHandle index change = theirs at hanswer hafter
    obtain ⟨ours | ours, registry⟩ := ours
    · obtain ⟨theirs | theirs, aloneRegistry⟩ := theirs
      · exact ⟨rfl, hafter.leaves⟩
      · cases hanswer
    · obtain ⟨theirs | theirs, aloneRegistry⟩ := theirs
      · cases hanswer
      · exact ⟨congrArg Except.ok (Option.some.inj hanswer), hafter⟩

theorem Shadows.poison (hshadows : Shadows id places full alone)
    (hplace : places[index]? = some number) :
    Shadows id places { full with registry := full.registry.poison number }
      { alone with registry := alone.registry.poison index } := by
  obtain ⟨cell, copy, hcell, hcopy, hsame⟩ := hshadows.cells.exists_cell hplace
  have hcells := hshadows.cells.writes hplace
    (writes_modify (fun cell => { cell with poisoned := true }) fun _ => rfl)
    (writes_modify (fun cell => { cell with poisoned := true }) fun _ => rfl)
  refine { hshadows with cells := hcells ?_ }
  have hsession : copy.session.unnumbered = cell.session.unnumbered :=
    congrArg (·.session) hsame
  rw [Array.getElem?_modify, Array.getElem?_modify, if_pos rfl, if_pos rfl, hcell, hcopy,
    Option.map_some, Option.map_some, Option.map_some, Option.map_some,
    SessionCell.unnumbered, SessionCell.unnumbered, hsession]

def Agrees (id : RequestId) (places : List Nat) (full alone : Reply × Desk) : Prop :=
  alone.1.unnumbered = full.1.unnumbered ∧ Shadows id places full.2 alone.2

theorem Shadows.work (hshadows : Shadows id places full alone)
    (hplace : places[index]? = some number) (work : Work) :
    Agrees id places (full.work number work) (alone.work index work) := by
  cases work with
  | nextChunk generated maxLength =>
      obtain ⟨hanswer, hafter⟩ :=
        hshadows.useHandle hplace (blind_nextChunk generated maxLength)
      rw [Option.map_id_apply, Option.map_id_apply] at hanswer
      exact ⟨congrArg Reply.heldChunk hanswer, hafter⟩
  | restart =>
      obtain ⟨hanswer, hafter⟩ := hshadows.useHandle hplace blind_restart
      rw [Option.map_id_apply, Option.map_id_apply] at hanswer
      exact ⟨congrArg Reply.heldDone hanswer, hafter⟩
  | read =>
      obtain ⟨hanswer, hafter⟩ := hshadows.useHandle hplace blind_read
      exact ⟨congrArg Reply.heldState hanswer, hafter⟩
  | fail => exact ⟨rfl, hshadows.poison hplace⟩

theorem Shadows.withHandle (hshadows : Shadows id places full alone)
    {index? number? : Option Nat} (hplace : Option.Rel (Names places) index? number?)
    {act actAlone : Nat → Reply × Desk}
    (hact : ∀ index number, places[index]? = some number →
      Agrees id places (act number) (actAlone index)) :
    Agrees id places (full.withHandle number? act) (alone.withHandle index? actAlone) := by
  cases hplace with
  | none => exact ⟨rfl, hshadows⟩
  | some hplace => exact hact _ _ hplace

theorem Shadows.contains_eq (hshadows : Shadows id places full alone) :
    alone.registry.contains id = full.registry.contains id := by
  rw [Registry.contains_eq_isSome, Registry.contains_eq_isSome]
  rcases hshadows.handle?_cases with ⟨halone, hfull⟩ | ⟨index, number, -, halone, hfull⟩
  · rw [halone, hfull]
  · rw [halone, hfull]
    rfl

theorem Names.append {more : List Nat} (hname : Names places index number) :
    Names (places ++ more) index number := by
  obtain ⟨hbound, -⟩ := List.getElem?_eq_some_iff.1 hname
  exact (List.getElem?_append_left hbound).trans hname

theorem Shadows.evict_alone (hshadows : Shadows id places full alone)
    (habsent : alone.registry.contains id = false) :
    alone.registry.evict = alone.registry := by
  have hempty : alone.registry.live.isEmpty = true := by
    rw [Std.HashMap.isEmpty_iff_forall_contains]
    intro other
    by_cases hother : other = id
    · rw [hother]
      exact habsent
    · exact (Registry.handle?_eq_none_iff _ _).1 (hshadows.only other hother)
  rw [Std.HashMap.isEmpty_eq_size_eq_zero, beq_iff_eq] at hempty
  apply Registry.evict_of_room
  rw [Registry.size, hempty]
  exact hshadows.room

theorem Shadows.enter (hshadows : Shadows id places full alone) (reference : Tokens) :
    Shadows id (places ++ [full.registry.cells.size])
      { full with registry := full.registry.enter id reference }
      { alone with registry := alone.registry.enter id reference } where
  backend_eq := hshadows.backend_eq
  matching_eq := hshadows.matching_eq
  room := hshadows.room
  cells := by
    apply hshadows.cells.push
    · rw [hshadows.backend_eq, hshadows.matching_eq]
      rfl
    · rfl
  live := by
    rw [Registry.handle?_enter, Registry.handle?_enter, if_pos rfl, if_pos rfl]
    refine .some ?_
    rw [Names, hshadows.cells.size_eq, List.getElem?_concat_length]
  kept := hshadows.kept.imp fun _ _ => Names.append
  only other hother := by
    rw [Registry.handle?_enter, if_neg (Ne.symm hother)]
    exact hshadows.only other hother

theorem Shadows.create (hshadows : Shadows id places full alone) (reference : Tokens)
    (hkeeps : full.registry.contains id = false → full.registry.evict = full.registry) :
    ∃ places, Agrees id places (full.give .done (full.registry.create id reference))
      (alone.give .done (alone.registry.create id reference)) := by
  rw [Registry.create, Registry.create, hshadows.contains_eq]
  cases hcontains : full.registry.contains id with
  | true => exact ⟨places, rfl, hshadows⟩
  | false =>
      rw [hkeeps hcontains, hshadows.evict_alone (hshadows.contains_eq.trans hcontains)]
      exact ⟨_, rfl, hshadows.enter reference⟩

theorem Shadows.keep (hshadows : Shadows id places full alone)
    (hplace : places[index]? = some number) :
    Shadows id places (full.keep id number) (alone.keep id index) := by
  refine { hshadows with kept := ?_ }
  rw [Desk.keep, Desk.keep]
  dsimp only
  rw [if_pos rfl, if_pos rfl]
  exact List.rel_append hshadows.kept (.cons hplace .nil)

theorem Shadows.kept_getElem? (hshadows : Shadows id places full alone) (index : Nat) :
    Option.Rel (Names places) (alone.kept id)[index]? (full.kept id)[index]? := by
  have hkept := hshadows.kept
  generalize alone.kept id = theirs at hkept
  generalize full.kept id = ours at hkept
  induction hkept generalizing index with
  | nil => exact .none
  | cons hplace _ ih =>
      cases index with
      | zero => exact .some hplace
      | succ index => exact ih index

theorem Shadows.answer (hshadows : Shadows id places full alone) (hkeeps : full.Keeps operation)
    (hid : operation.id = id) :
    ∃ places, Agrees id places (full.answer operation) (alone.answer operation) := by
  cases operation with
  | create named reference =>
      obtain rfl : named = id := hid
      exact hshadows.create reference (hkeeps named reference rfl)
  | remove named =>
      obtain rfl : named = id := hid
      exact ⟨places, congrArg Reply.found hshadows.contains_eq, hshadows.leaves⟩
  | contains named =>
      obtain rfl : named = id := hid
      exact ⟨places, congrArg Reply.found hshadows.contains_eq, hshadows⟩
  | recreate named =>
      obtain rfl : named = id := hid
      obtain ⟨hanswer, hafter⟩ := hshadows.useSession blind_restart
      rw [Except.map_id, id_eq, id_eq] at hanswer
      exact ⟨places, congrArg Reply.done hanswer, hafter⟩
  | nextChunk named generated maxLength =>
      obtain rfl : named = id := hid
      obtain ⟨hanswer, hafter⟩ := hshadows.useSession (blind_nextChunk generated maxLength)
      rw [Except.map_id, id_eq, id_eq] at hanswer
      rw [Desk.answer, Desk.answer, Registry.nextChunk_eq, Registry.nextChunk_eq, hanswer]
      exact ⟨places, rfl, hafter⟩
  | read named =>
      obtain rfl : named = id := hid
      obtain ⟨hanswer, hafter⟩ := hshadows.useSession blind_read
      exact ⟨places, congrArg Reply.state hanswer, hafter⟩
  | fail named =>
      obtain rfl : named = id := hid
      exact ⟨places, hshadows.withHandle hshadows.live fun _ _ hplace =>
        hshadows.work hplace .fail⟩
  | keep named =>
      obtain rfl : named = id := hid
      exact ⟨places, hshadows.withHandle hshadows.live fun _ _ hplace =>
        ⟨rfl, hshadows.keep hplace⟩⟩
  | through named index work =>
      obtain rfl : named = id := hid
      exact ⟨places, hshadows.withHandle (hshadows.kept_getElem? index) fun _ _ hplace =>
        hshadows.work hplace work⟩

end Shadows

section Runs

variable {id : RequestId} {places : List Nat} {full alone : Desk} {operations : List Operation}

def unnumbered (entry : Operation × Reply) : Operation × Reply :=
  (entry.1, entry.2.unnumbered)

/-- What others do leaves no trace in the replies to a request. -/
theorem Shadows.transcript (hshadows : Shadows id places full alone) (howned : full.Owned)
    (hkeeps : full.NeverEvicts operations) :
    ((full.transcript operations).filter (·.1.id == id)).map unnumbered =
      (alone.transcript (operations.filter (·.id == id))).map unnumbered := by
  -- Each session that the request creates adds a place, so the places are not fixed.
  induction operations generalizing full alone places with
  | nil => rfl
  | cons operation operations ih =>
      have howned' := howned.answer hkeeps.1
      rw [Desk.transcript]
      by_cases hid : operation.id = id
      · obtain ⟨places, hreply, hafter⟩ := hshadows.answer hkeeps.1 hid
        rw [List.filter_cons_of_pos (by simpa using hid),
          List.filter_cons_of_pos (by simpa using hid), Desk.transcript, List.map_cons,
          List.map_cons, ih hafter howned' hkeeps.2, unnumbered, unnumbered, hreply]
      · have hafter := hshadows.effect_foreign howned (answer_effect hkeeps.1) hid
        rw [List.filter_cons_of_neg (by simpa using hid),
          List.filter_cons_of_neg (by simpa using hid)]
        exact ih hafter howned' hkeeps.2

/-- A request is answered as if it were the only one, apart from the numbers of its sessions,
and once it has lost a session, a handle of that one does nothing to the next. -/
theorem sessions_do_not_interfere (backend : Backend) (matching : MatchSettings)
    (maxSessions : Nat) (id : RequestId) (operations : List Operation)
    (hkeeps : (new backend matching maxSessions).NeverEvicts operations) :
    let desk := new backend matching maxSessions
    ((desk.transcript operations).filter (·.1.id == id)).map unnumbered =
        (desk.transcript (operations.filter (·.id == id))).map unnumbered ∧
      ∀ earlier later, operations = earlier ++ later →
        (desk.after earlier).registry.contains id = false →
        ∀ index < ((desk.after earlier).kept id).length, ∀ work,
          Spares id (desk.after operations)
            ((desk.after operations).answer (.through id index work)).2 := by
  have howned := owned_new backend matching maxSessions
  refine ⟨(shadows_new id backend matching maxSessions).transcript howned hkeeps, ?_⟩
  intro earlier later hoperations habsent index hindex work
  subst hoperations
  obtain ⟨hearlier, hlater⟩ := neverEvicts_append.1 hkeeps
  have hstart : ((new backend matching maxSessions).after earlier).Owned :=
    after_of_effects (fun heffect howned => howned.effect heffect) howned hearlier
  have hsince := after_of_effects (fun heffect hsince => hsince.effect heffect)
    (since_refl habsent) hlater
  rw [after_append]
  exact hsince.spares hstart hindex work

/-- The handle of a session that was removed is used to fail, and the next session does not
notice. -/
theorem sessions_do_not_interfere_replaced :
    let desk := new .sequential {} 3
    let earlier : List Operation := [.create "a" [1, 2], .keep "a", .remove "a"]
    let later : List Operation := [.create "b" [3], .create "a" [4, 5], .nextChunk "a" [] 2]
    desk.NeverEvicts (earlier ++ later) ∧
      ((desk.transcript (earlier ++ later)).filter (·.1.id == "a")).map unnumbered =
        (desk.transcript
          (earlier ++ [.create "a" [4, 5], .nextChunk "a" [] 2])).map unnumbered ∧
      (desk.after earlier).registry.contains "a" = false ∧
      Spares "a" (desk.after (earlier ++ later))
        ((desk.after (earlier ++ later)).answer (.through "a" 0 .fail)).2 := by
  intro desk earlier later
  have hempty : desk.registry.size = 0 := Registry.size_new ..
  have hkeeps : desk.NeverEvicts (earlier ++ later) := by
    apply neverEvicts_of_room
    rw [hempty]
    decide
  have hlive : (desk.answer (.create "a" [1, 2])).2.registry.handle? "a" = some 0 := by
    have habsent : desk.registry.contains "a" = false := Std.HashMap.contains_empty
    have hroom : desk.registry.evict = desk.registry := hkeeps.1 "a" [1, 2] rfl habsent
    change (desk.registry.create "a" [1, 2]).2.handle? "a" = some 0
    rw [Registry.create, habsent, hroom]
    exact (Registry.handle?_enter desk.registry "a" "a" [1, 2]).trans (if_pos rfl)
  have hkept : (desk.after earlier).kept "a" = [0] := by
    change ((desk.answer (.create "a" [1, 2])).2.withHandle _ _).2.kept "a" = [0]
    rw [hlive]
    rfl
  have hlost : (desk.after earlier).registry.contains "a" = false :=
    Registry.contains_remove _ "a"
  obtain ⟨hreplies, hspares⟩ :=
    sessions_do_not_interfere .sequential {} 3 "a" (earlier ++ later) hkeeps
  refine ⟨hkeeps, hreplies, hlost, hspares earlier later rfl hlost 0 ?_ .fail⟩
  rw [hkept]
  exact Nat.zero_lt_one

end Runs

end Desk

end Redraft
