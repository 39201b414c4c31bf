import Redraft.Proofs.Registry.Sessions

/-!
Several clients use one registry. Each names a request, or goes through a handle that was
kept from that request before, and a handle goes on standing for its session whatever becomes
of the request. So an operation touches nothing but sessions of the request it names.
-/

namespace Redraft

/-- What a client does with a session whose handle he kept. -/
inductive Work where
  | nextChunk (generated : Tokens) (maxLength : Nat)
  | restart
  | read
  /-- Fails, which poisons the session. -/
  | fail
deriving DecidableEq, Repr

inductive Operation where
  | create (id : RequestId) (reference : Tokens)
  | remove (id : RequestId)
  | contains (id : RequestId)
  | recreate (id : RequestId)
  | nextChunk (id : RequestId) (generated : Tokens) (maxLength : Nat)
  | read (id : RequestId)
  | fail (id : RequestId)
  /-- Keeps a handle of the live session. -/
  | keep (id : RequestId)
  /-- Goes through one of the handles kept from a request, in the order of keeping. -/
  | through (id : RequestId) (index : Nat) (work : Work)
deriving DecidableEq, Repr

def Operation.id : Operation → RequestId
  | create id _ | remove id | contains id | recreate id | nextChunk id _ _ | read id | fail id
  | keep id | through id _ _ => id

def Operation.isCreate : Operation → Bool
  | create .. => true
  | _ => false

inductive Reply where
  | done (result : Except SessionError Unit)
  | found (present : Bool)
  | chunk (result : Except SessionError Tokens)
  | state (result : Except SessionError Session)
  /-- Through a handle there is no result if the session is poisoned. -/
  | heldDone (result : Option Unit)
  | heldChunk (result : Option (Except SessionError Tokens))
  | heldState (result : Option Session)

/-- A registry, and the numbers of the sessions whose handles are kept. -/
structure Desk where
  registry : Registry
  kept : RequestId → List Nat := fun _ => []

namespace Desk

variable {α : Type}

def new (backend : Backend) (matching : MatchSettings) (maxSessions : Nat) : Desk :=
  { registry := .new backend matching maxSessions }

def give (desk : Desk) (reply : α → Reply) (result : α × Registry) : Reply × Desk :=
  (reply result.1, { desk with registry := result.2 })

def work (desk : Desk) (number : Nat) : Work → Reply × Desk
  | .nextChunk generated maxLength =>
    desk.give .heldChunk (desk.registry.useHandle number (·.nextChunk generated maxLength))
  | .restart =>
    desk.give .heldDone (desk.registry.useHandle number fun session => ((), session.restart))
  | .read =>
    desk.give .heldState (desk.registry.useHandle number fun session => (session, session))
  | .fail => (.found true, { desk with registry := desk.registry.poison number })

def keep (desk : Desk) (id : RequestId) (number : Nat) : Desk :=
  { desk with
    kept := fun other => if other = id then desk.kept id ++ [number] else desk.kept other }

def withHandle (desk : Desk) (number? : Option Nat) (act : Nat → Reply × Desk) :
    Reply × Desk :=
  match number? with
  | none => (.found false, desk)
  | some number => act number

def answer (desk : Desk) : Operation → Reply × Desk
  | .create id reference => desk.give .done (desk.registry.create id reference)
  | .remove id => desk.give .found (desk.registry.remove id)
  | .contains id => (.found (desk.registry.contains id), desk)
  | .recreate id => desk.give .done (desk.registry.recreate id)
  | .nextChunk id generated maxLength =>
    desk.give .chunk (desk.registry.nextChunk id generated maxLength)
  | .read id =>
    desk.give .state (desk.registry.useSession id fun session => (session, session))
  | .fail id => desk.withHandle (desk.registry.handle? id) fun number => desk.work number .fail
  | .keep id =>
    desk.withHandle (desk.registry.handle? id) fun number =>
      (.found true, desk.keep id number)
  | .through id index work =>
    desk.withHandle (desk.kept id)[index]? fun number => desk.work number work

def transcript (desk : Desk) : List Operation → List (Operation × Reply)
  | [] => []
  | operation :: operations =>
    (operation, (desk.answer operation).1) ::
      transcript (desk.answer operation).2 operations

def after (desk : Desk) : List Operation → Desk
  | [] => desk
  | operation :: operations => after (desk.answer operation).2 operations

theorem after_append (desk : Desk) (earlier later : List Operation) :
    desk.after (earlier ++ later) = (desk.after earlier).after later := by
  induction earlier generalizing desk with
  | nil => rfl
  | cons operation earlier ih => exact ih (desk.answer operation).2

def Keeps (desk : Desk) (operation : Operation) : Prop :=
  ∀ id reference, operation = .create id reference →
    desk.registry.contains id = false → desk.registry.evict = desk.registry

def NeverEvicts (desk : Desk) : List Operation → Prop
  | [] => True
  | operation :: operations =>
    desk.Keeps operation ∧ NeverEvicts (desk.answer operation).2 operations

section Effect

def Reaches (desk : Desk) (id : RequestId) (number : Nat) : Prop :=
  desk.registry.handle? id = some number ∨ number ∈ desk.kept id

structure Writes (number : Nat) (before after : Array SessionCell) : Prop where
  size_eq : after.size = before.size
  others_eq : ∀ index, index ≠ number → after[index]? = before[index]?
  owner_eq : ∀ index : Nat, after[index]?.map (·.session.id) = before[index]?.map (·.session.id)

/-- All that an operation can do. Only one that creates a session adds to them. -/
inductive Effect (operation : Operation) (desk : Desk) : Desk → Prop where
  | nothing : Effect operation desk desk
  | enters (reference : Tokens) (hcreates : operation = .create operation.id reference)
    (habsent : desk.registry.handle? operation.id = none) :
    Effect operation desk { desk with registry := desk.registry.enter operation.id reference }
  | leaves : Effect operation desk { desk with registry := (desk.registry.remove operation.id).2 }
  | writes (number : Nat) (cells : Array SessionCell)
    (hreaches : desk.Reaches operation.id number)
    (hwrites : Writes number desk.registry.cells cells) :
    Effect operation desk { desk with registry := { desk.registry with cells } }
  | keeps (number : Nat) (hnumber : desk.registry.handle? operation.id = some number) :
    Effect operation desk (desk.keep operation.id number)

variable {desk : Desk} {operation : Operation} {number : Nat} {cells : Array SessionCell}

theorem Writes.refl (number : Nat) (cells : Array SessionCell) : Writes number cells cells :=
  ⟨rfl, fun _ _ => rfl, fun _ => rfl⟩

theorem writes_setIfInBounds {cell : SessionCell} (written : SessionCell)
    (hcell : cells[number]? = some cell) (hid : written.session.id = cell.session.id) :
    Writes number cells (cells.setIfInBounds number written) where
  size_eq := Array.size_setIfInBounds
  others_eq index hother := Array.getElem?_setIfInBounds_ne (Ne.symm hother)
  owner_eq index := by
    rw [Array.getElem?_setIfInBounds]
    split
    · rename_i hsame
      subst hsame
      rw [if_pos (Array.getElem?_eq_some_iff.1 hcell).1, hcell, Option.map_some,
        Option.map_some, hid]
    · rfl

theorem writes_modify (change : SessionCell → SessionCell)
    (hid : ∀ cell, (change cell).session.id = cell.session.id) :
    Writes number cells (cells.modify number change) where
  size_eq := Array.size_modify
  others_eq index hother := by rw [Array.getElem?_modify, if_neg (Ne.symm hother)]
  owner_eq index := by
    rw [Array.getElem?_modify]
    split
    · rw [Option.map_map]
      exact congrArg (cells[index]?.map ·) (funext hid)
    · rfl

theorem useHandle_cases (registry : Registry) (number : Nat)
    (change : Session → α × Session) :
    registry.useHandle number change = (none, registry) ∨
      ∃ cell, registry.cells[number]? = some cell ∧
        registry.useHandle number change =
          (some (change cell.session).1,
            { registry with
              cells := registry.cells.setIfInBounds number
                { session := (change cell.session).2 } }) := by
  rw [Registry.useHandle]
  cases hcell : registry.cells[number]? with
  | none => exact .inl rfl
  | some cell =>
      dsimp only
      cases cell.poisoned with
      | true => exact .inl rfl
      | false => exact .inr ⟨cell, rfl, rfl⟩

theorem useHandle_writes (registry : Registry) (number : Nat) {change : Session → α × Session}
    (hid : ∀ session, (change session).2.id = session.id) :
    ∃ cells, (registry.useHandle number change).2 = { registry with cells } ∧
      Writes number registry.cells cells := by
  rcases useHandle_cases registry number change with hnone | ⟨cell, hcell, huse⟩
  · exact ⟨registry.cells, by rw [hnone], .refl ..⟩
  · exact ⟨_, by rw [huse], writes_setIfInBounds _ hcell (hid cell.session)⟩

theorem useSession_effect (desk : Desk) (operation : Operation)
    (change : Session → α × Session) (hid : ∀ session, (change session).2.id = session.id) :
    Effect operation desk
      { desk with registry := (desk.registry.useSession operation.id change).2 } := by
  rw [Registry.useSession]
  cases hnumber : desk.registry.handle? operation.id with
  | none => exact .nothing
  | some number =>
      dsimp only
      rcases useHandle_cases desk.registry number change with hnone | ⟨cell, hcell, huse⟩
      · rw [hnone]
        exact .leaves
      · rw [huse]
        exact .writes number _ (.inl hnumber) (writes_setIfInBounds _ hcell (hid cell.session))

theorem work_writes (desk : Desk) (number : Nat) (work : Work) :
    ∃ cells, (desk.work number work).2 =
        { desk with registry := { desk.registry with cells } } ∧
      Writes number desk.registry.cells cells := by
  have hhandle {α : Type} (reply : Option α → Reply) (change : Session → α × Session)
      (hid : ∀ session, (change session).2.id = session.id) :
      ∃ cells, (desk.give reply (desk.registry.useHandle number change)).2 =
          { desk with registry := { desk.registry with cells } } ∧
        Writes number desk.registry.cells cells := by
    obtain ⟨cells, huse, hwrites⟩ := useHandle_writes desk.registry number hid
    exact ⟨cells, by rw [give, huse], hwrites⟩
  cases work with
  | nextChunk generated maxLength =>
      exact hhandle .heldChunk (·.nextChunk generated maxLength)
        (Session.id_nextChunk · generated maxLength)
  | restart => exact hhandle .heldDone (fun session => ((), session.restart)) fun _ => rfl
  | read => exact hhandle .heldState (fun session => (session, session)) fun _ => rfl
  | fail => exact ⟨_, rfl, writes_modify _ fun _ => rfl⟩

theorem work_effect (hreaches : desk.Reaches operation.id number) (work : Work) :
    Effect operation desk (desk.work number work).2 := by
  obtain ⟨cells, hwork, hwrites⟩ := work_writes desk number work
  rw [hwork]
  exact .writes number cells hreaches hwrites

theorem withHandle_effect {number? : Option Nat} {act : Nat → Reply × Desk}
    (hact : ∀ number, number? = some number → Effect operation desk (act number).2) :
    Effect operation desk (desk.withHandle number? act).2 := by
  cases hnumber : number? with
  | none => exact .nothing
  | some number => exact hact number hnumber

theorem create_effect {id : RequestId} (reference : Tokens)
    (hkeeps : desk.registry.contains id = false → desk.registry.evict = desk.registry) :
    Effect (.create id reference) desk
      { desk with registry := (desk.registry.create id reference).2 } := by
  rw [Registry.create]
  cases habsent : desk.registry.contains id with
  | true => exact .nothing
  | false =>
      rw [hkeeps habsent]
      exact .enters reference rfl ((Registry.handle?_eq_none_iff _ _).2 habsent)

/-- Where nothing is evicted, an operation touches the request it names and nothing else. -/
theorem answer_effect (hkeeps : desk.Keeps operation) :
    Effect operation desk (desk.answer operation).2 := by
  cases operation with
  | create id reference => exact create_effect reference (hkeeps id reference rfl)
  | remove id => exact .leaves
  | contains id => exact .nothing
  | recreate id =>
      exact useSession_effect desk (.recreate id)
        (fun session => ((), session.restart)) fun _ => rfl
  | nextChunk id generated maxLength =>
      rw [answer, Registry.nextChunk_eq]
      exact useSession_effect desk (.nextChunk id generated maxLength)
        (·.nextChunk generated maxLength) (Session.id_nextChunk · generated maxLength)
  | read id =>
      exact useSession_effect desk (.read id) (fun session => (session, session)) fun _ => rfl
  | fail id => exact withHandle_effect fun number hnumber => work_effect (.inl hnumber) .fail
  | keep id => exact withHandle_effect fun number hnumber => .keeps number hnumber
  | through id index work =>
      exact withHandle_effect fun number hnumber =>
        work_effect (.inr (List.mem_of_getElem? hnumber)) work

end Effect

section Room

variable {desk later : Desk} {operation : Operation} {operations : List Operation}

theorem Effect.size_le (heffect : Effect operation desk later) :
    later.registry.size ≤ desk.registry.size + (if operation.isCreate then 1 else 0) ∧
      later.registry.capacity = desk.registry.capacity := by
  cases heffect with
  | nothing => exact ⟨Nat.le_add_right _ _, rfl⟩
  | enters reference hcreates habsent =>
      rw [hcreates]
      exact ⟨Std.HashMap.size_insert_le, rfl⟩
  | leaves => exact ⟨Nat.le_add_right_of_le Std.HashMap.size_erase_le, rfl⟩
  | writes written cells hwritten hwrites => exact ⟨Nat.le_add_right _ _, rfl⟩
  | keeps kept hlive => exact ⟨Nat.le_add_right _ _, rfl⟩

theorem neverEvicts_of_room
    (hroom : desk.registry.size + operations.countP (·.isCreate) ≤ desk.registry.capacity) :
    desk.NeverEvicts operations := by
  induction operations generalizing desk with
  | nil => trivial
  | cons operation operations ih =>
      rw [List.countP_cons] at hroom
      have hhead : desk.Keeps operation := by
        intro id reference hcreate _
        rw [hcreate, Operation.isCreate, if_pos rfl] at hroom
        exact Registry.evict_of_room (by omega)
      obtain ⟨hsize, hcapacity⟩ := (answer_effect hhead).size_le
      exact ⟨hhead, ih (by omega)⟩

end Room

section Owners

variable {desk later : Desk} {operation : Operation} {id : RequestId} {number : Nat}

def Owned (desk : Desk) : Prop :=
  ∀ id number, desk.Reaches id number →
    desk.registry.cells[number]?.map (·.session.id) = some id

theorem owned_new (backend : Backend) (matching : MatchSettings) (maxSessions : Nat) :
    (new backend matching maxSessions).Owned := by
  intro id number hreaches
  rcases hreaches with hlive | hkept
  · have hnone : (new backend matching maxSessions).registry.handle? id = none :=
      Std.HashMap.getElem?_empty
    rw [hnone] at hlive
    cases hlive
  · exact absurd hkept List.not_mem_nil

theorem Owned.lt_created (howned : desk.Owned) (hreaches : desk.Reaches id number) :
    number < desk.registry.cells.size := by
  obtain ⟨cell, hcell, -⟩ := Option.map_eq_some_iff.1 (howned id number hreaches)
  exact (Array.getElem?_eq_some_iff.1 hcell).1

theorem Effect.reaches_before (heffect : Effect operation desk later)
    (hreaches : later.Reaches id number) :
    desk.Reaches id number ∨ number = desk.registry.cells.size ∧
      ∃ reference, later = { desk with registry := desk.registry.enter id reference } := by
  cases heffect with
  | nothing => exact .inl hreaches
  | enters reference hcreates habsent =>
      rcases hreaches with hlive | hkept
      · rw [Registry.handle?_enter] at hlive
        split at hlive
        · rename_i hsame
          rw [hsame] at habsent ⊢
          exact .inr ⟨(Option.some.inj hlive).symm, reference, rfl⟩
        · exact .inl (.inl hlive)
      · exact .inl (.inr hkept)
  | leaves =>
      refine .inl (hreaches.imp_left fun hlive => ?_)
      rw [Registry.handle?_remove] at hlive
      split at hlive
      · cases hlive
      · exact hlive
  | writes written cells hwritten hwrites => exact .inl hreaches
  | keeps kept hlive =>
      refine .inl (hreaches.elim .inl fun hkept => ?_)
      rw [keep] at hkept
      dsimp only at hkept
      split at hkept
      · rename_i hsame
        subst hsame
        rcases List.mem_append.1 hkept with hold | hnew
        · exact .inr hold
        · rw [List.mem_singleton.1 hnew]
          exact .inl hlive
      · exact .inr hkept

theorem Effect.owner_eq (heffect : Effect operation desk later)
    (hold : number < desk.registry.cells.size) :
    later.registry.cells[number]?.map (·.session.id) =
      desk.registry.cells[number]?.map (·.session.id) := by
  cases heffect with
  | nothing => rfl
  | enters reference hcreates habsent =>
      rw [Registry.enter, Array.getElem?_push, if_neg (Nat.ne_of_lt hold)]
  | leaves => rfl
  | writes written cells hwritten hwrites => exact hwrites.owner_eq number
  | keeps kept hlive => rfl

theorem Owned.effect (howned : desk.Owned) (heffect : Effect operation desk later) :
    later.Owned := by
  intro id number hreaches
  rcases heffect.reaches_before hreaches with hbefore | ⟨rfl, reference, rfl⟩
  · rw [heffect.owner_eq (howned.lt_created hbefore)]
    exact howned id number hbefore
  · rw [Registry.enter, Array.getElem?_push_size]
    rfl

theorem Owned.answer (howned : desk.Owned) (hkeeps : desk.Keeps operation) :
    (desk.answer operation).2.Owned :=
  howned.effect (answer_effect hkeeps)

end Owners

section Stale

variable {start desk later : Desk} {id : RequestId} {operation : Operation}
  {operations : List Operation}

theorem neverEvicts_append {earlier later : List Operation} :
    desk.NeverEvicts (earlier ++ later) ↔
      desk.NeverEvicts earlier ∧ (desk.after earlier).NeverEvicts later := by
  induction earlier generalizing desk with
  | nil => exact (and_iff_right trivial).symm
  | cons operation earlier ih =>
      rw [List.cons_append, NeverEvicts, ih, ← and_assoc]
      rfl

theorem after_of_effects {holds : Desk → Prop}
    (heffects : ∀ {operation before later}, Effect operation before later → holds before →
      holds later)
    (hstart : holds desk) (hkeeps : desk.NeverEvicts operations) :
    holds (desk.after operations) := by
  induction operations generalizing desk with
  | nil => exact hstart
  | cons operation operations ih =>
      exact ih (heffects (answer_effect hkeeps.1) hstart) hkeeps.2

/-- What has come of a request that had no session at the start: handles kept since are at
the end, and its live session is a new one. -/
structure Since (start : Desk) (id : RequestId) (desk : Desk) : Prop where
  created_le : start.registry.cells.size ≤ desk.registry.cells.size
  kept_start : start.kept id <+: desk.kept id
  live_new : ∀ number, desk.registry.handle? id = some number →
    start.registry.cells.size ≤ number

theorem since_refl (habsent : start.registry.contains id = false) : Since start id start where
  created_le := Nat.le_refl _
  kept_start := List.prefix_rfl
  live_new number hlive := by
    rw [(Registry.handle?_eq_none_iff _ _).2 habsent] at hlive
    cases hlive

theorem Since.effect (hsince : Since start id desk) (heffect : Effect operation desk later) :
    Since start id later := by
  cases heffect with
  | nothing => exact hsince
  | enters reference hcreates habsent =>
      refine ⟨?_, hsince.kept_start, fun number hlive => ?_⟩
      · rw [Registry.enter, Array.size_push]
        exact Nat.le_succ_of_le hsince.created_le
      · rw [Registry.handle?_enter] at hlive
        split at hlive
        · exact Option.some.inj hlive ▸ hsince.created_le
        · exact hsince.live_new number hlive
  | leaves =>
      refine ⟨hsince.created_le, hsince.kept_start, fun number hlive => ?_⟩
      rw [Registry.handle?_remove] at hlive
      split at hlive
      · cases hlive
      · exact hsince.live_new number hlive
  | writes written cells hwritten hwrites =>
      exact ⟨hwrites.size_eq.symm ▸ hsince.created_le, hsince.kept_start, hsince.live_new⟩
  | keeps kept hlive =>
      refine ⟨hsince.created_le, ?_, hsince.live_new⟩
      rw [keep]
      dsimp only
      split
      · rename_i hsame
        exact hsame ▸ hsince.kept_start.trans (List.prefix_append _ _)
      · exact hsince.kept_start

structure Spares (id : RequestId) (before after : Desk) : Prop where
  live_eq : after.registry.live = before.registry.live
  cell_eq : ∀ number, before.registry.handle? id = some number →
    after.registry.cells[number]? = before.registry.cells[number]?

theorem Since.spares (hsince : Since start id desk) (howned : start.Owned) {index : Nat}
    (hindex : index < (start.kept id).length) (work : Work) :
    Spares id desk (desk.answer (.through id index work)).2 := by
  have hstart : (start.kept id)[index]? = some (start.kept id)[index] :=
    List.getElem?_eq_getElem hindex
  have hkept : (desk.kept id)[index]? = some (start.kept id)[index] := by
    obtain ⟨more, hmore⟩ := hsince.kept_start
    rw [← hmore, List.getElem?_append_left hindex, hstart]
  have hold : (start.kept id)[index] < start.registry.cells.size :=
    howned.lt_created (.inr (List.getElem_mem hindex))
  obtain ⟨cells, hwork, hwrites⟩ := work_writes desk (start.kept id)[index] work
  rw [answer, hkept]
  change Spares id desk (desk.work (start.kept id)[index] work).2
  rw [hwork]
  refine ⟨rfl, fun number hlive => hwrites.others_eq number fun hsame => ?_⟩
  have hnew := hsince.live_new number hlive
  omega

end Stale

end Desk

end Redraft
