import Redraft.Registry

/-!
A roster is what a registry should amount to: a list of the live sessions in the order in
which they were created. New sessions go to the back, and when the list is full the front
makes room.
-/

namespace Redraft

/-- What may happen to sessions. Whoever uses a session may do to it what he likes, and its
cell is poisoned if he fails meanwhile. -/
inductive SessionEvent (α : Type) where
  | create (id : RequestId) (reference : Tokens)
  | remove (id : RequestId)
  | recreate (id : RequestId)
  | nextChunk (id : RequestId) (generated : Tokens) (maxLength : Nat)
  | use (id : RequestId) (change : Session → α × Session)
  | clear
  | poison (number : Nat)

inductive SessionAnswer (α : Type) where
  | done (result : Except SessionError Unit)
  | removed (found : Bool)
  | chunk (result : Except SessionError Tokens)
  | used (result : Except SessionError α)
  | nothing

/-- Nobody puts a session with another number in the place of the one he uses. -/
def SessionEvent.KeepsNumbers {α : Type} : SessionEvent α → Prop
  | .use _ change => ∀ session, (change session).2.number = session.number
  | _ => True

section Draft

theorem Session.nextChunk_snd (session : Session) (output : Tokens) (limit : Nat) :
    ∃ generated matcher,
      (session.nextChunk output limit).2 = { session with generated, matcher } := by
  unfold Session.nextChunk
  split
  · exact ⟨_, _, rfl⟩
  · exact ⟨_, _, rfl⟩

variable (session : Session) (output : Tokens) (limit : Nat)

theorem Session.id_nextChunk : (session.nextChunk output limit).2.id = session.id := by
  obtain ⟨generated, matcher, hsession⟩ := session.nextChunk_snd output limit
  rw [hsession]

theorem Session.reference_nextChunk :
    (session.nextChunk output limit).2.reference = session.reference := by
  obtain ⟨generated, matcher, hsession⟩ := session.nextChunk_snd output limit
  rw [hsession]

theorem Session.number_nextChunk :
    (session.nextChunk output limit).2.number = session.number := by
  obtain ⟨generated, matcher, hsession⟩ := session.nextChunk_snd output limit
  rw [hsession]

end Draft

class SessionStore (σ : Type) where
  create : σ → RequestId → Tokens → Except SessionError Unit × σ
  remove : σ → RequestId → Bool × σ
  useSession {α : Type} : σ → RequestId → (Session → α × Session) → Except SessionError α × σ
  recreate : σ → RequestId → Except SessionError Unit × σ
  nextChunk : σ → RequestId → Tokens → Nat → Except SessionError Tokens × σ
  clear : σ → σ
  poison : σ → Nat → σ

namespace SessionStore

def handle {σ α : Type} [SessionStore σ] (store : σ) : SessionEvent α → SessionAnswer α × σ
  | .create id reference =>
    let (result, store) := create store id reference
    (.done result, store)
  | .remove id =>
    let (found, store) := remove store id
    (.removed found, store)
  | .recreate id =>
    let (result, store) := recreate store id
    (.done result, store)
  | .nextChunk id generated maxLength =>
    let (result, store) := nextChunk store id generated maxLength
    (.chunk result, store)
  | .use id change =>
    let (result, store) := useSession store id change
    (.used result, store)
  | .clear => (.nothing, clear store)
  | .poison number => (.nothing, poison store number)

def run {σ α : Type} [SessionStore σ] : σ → List (SessionEvent α) → List (SessionAnswer α) × σ
  | store, [] => ([], store)
  | store, event :: events =>
    let (answer, store) := handle store event
    let (answers, store) := run store events
    (answer :: answers, store)

theorem run_append {σ α : Type} [SessionStore σ] (store : σ)
    (earlier later : List (SessionEvent α)) :
    (run store (earlier ++ later)).2 = (run (run store earlier).2 later).2 := by
  induction earlier generalizing store with
  | nil => rfl
  | cons event earlier ih => exact ih (handle store event).2

end SessionStore

structure RosterEntry where
  id : RequestId
  number : Nat
  cell : SessionCell

structure Roster where
  backend : Backend
  matching : MatchSettings
  capacity : Nat
  /-- The live sessions, the one created first in front. -/
  entries : List RosterEntry := []
  /-- Number of the session that is created next. -/
  next : Nat := 0

namespace Roster

variable {α : Type}

def new (backend : Backend) (matching : MatchSettings) (maxSessions : Nat) : Roster :=
  { backend, matching, capacity := max 1 maxSessions }

def find? (roster : Roster) (id : RequestId) : Option RosterEntry :=
  roster.entries.find? (·.id == id)

def drop (roster : Roster) (id : RequestId) : Roster :=
  { roster with entries := roster.entries.filter (·.id != id) }

def alter (roster : Roster) (number : Nat) (change : SessionCell → SessionCell) : Roster :=
  { roster with
    entries := roster.entries.map fun entry =>
      if entry.number = number then { entry with cell := change entry.cell } else entry }

/-- A full roster drops the session that was created first. -/
def makeRoom (roster : Roster) : Roster :=
  if roster.entries.length < roster.capacity then roster
  else { roster with entries := roster.entries.tail }

def enter (roster : Roster) (id : RequestId) (reference : Tokens) : Roster :=
  let session := Session.start id reference roster.backend roster.matching roster.next
  { roster with
    entries := roster.entries ++ [⟨id, roster.next, { session }⟩]
    next := roster.next + 1 }

def create (roster : Roster) (id : RequestId) (reference : Tokens) :
    Except SessionError Unit × Roster :=
  match roster.find? id with
  | some _ => (.error (.alreadyExists id), roster)
  | none => (.ok (), roster.makeRoom.enter id reference)

def remove (roster : Roster) (id : RequestId) : Bool × Roster :=
  ((roster.find? id).isSome, roster.drop id)

def clear (roster : Roster) : Roster := { roster with entries := [] }

def poison (roster : Roster) (number : Nat) : Roster :=
  roster.alter number fun cell => { cell with poisoned := true }

/-- Uses a session in place. A poisoned one is dropped instead. -/
def useSession (roster : Roster) (id : RequestId) (change : Session → α × Session) :
    Except SessionError α × Roster :=
  match roster.find? id with
  | none => (.error (.notFound id), roster)
  | some entry =>
    if entry.cell.poisoned then (.error (.poisoned id), roster.drop id)
    else
      let (answer, session) := change entry.cell.session
      (.ok answer, roster.alter entry.number fun _ => { session })

def recreate (roster : Roster) (id : RequestId) : Except SessionError Unit × Roster :=
  roster.useSession id fun session => ((), session.restart)

def nextChunk (roster : Roster) (id : RequestId) (generated : Tokens) (maxLength : Nat) :
    Except SessionError Tokens × Roster :=
  let (result, roster) := roster.useSession id (·.nextChunk generated maxLength)
  (result.bind fun chunk => chunk, roster)

instance : SessionStore Roster where
  create := create
  remove := remove
  useSession := useSession
  recreate := recreate
  nextChunk := nextChunk
  clear := clear
  poison := poison

/-- The list is in order of creation, no request is listed twice, and there is room for all. -/
structure Orderly (roster : Roster) : Prop where
  ascending : roster.entries.Pairwise (·.number < ·.number)
  distinct : roster.entries.Pairwise (·.id ≠ ·.id)
  issued : ∀ entry ∈ roster.entries, entry.number < roster.next
  fits : roster.entries.length ≤ roster.capacity
  room : 0 < roster.capacity

/-- What was dropped does not come back: a later roster lists sessions that were listed
before, and new ones. -/
structure Precedes (before after : Roster) : Prop where
  next_le : before.next ≤ after.next
  origin : ∀ entry ∈ after.entries, entry.number < before.next →
    ∃ earlier ∈ before.entries, earlier.id = entry.id ∧ earlier.number = entry.number
  capacity_eq : after.capacity = before.capacity

def Numbered (roster : Roster) : Prop :=
  ∀ entry ∈ roster.entries, entry.cell.session.number = entry.number

section Keys

def keys (roster : Roster) : List (RequestId × Nat) :=
  roster.entries.map fun entry => (entry.id, entry.number)

/-- Some sessions may be dropped and others changed, but none is new. -/
structure Shrinks (before after : Roster) : Prop where
  keys_sublist : after.keys.Sublist before.keys
  next_eq : after.next = before.next
  capacity_eq : after.capacity = before.capacity

variable {roster before after : Roster}

theorem Shrinks.refl (roster : Roster) : roster.Shrinks roster := ⟨.refl _, rfl, rfl⟩

theorem shrinks_of_sublist {entries : List RosterEntry}
    (hsublist : entries.Sublist roster.entries) : roster.Shrinks { roster with entries } :=
  ⟨hsublist.map _, rfl, rfl⟩

theorem shrinks_drop (roster : Roster) (id : RequestId) : roster.Shrinks (roster.drop id) :=
  shrinks_of_sublist List.filter_sublist

theorem keys_alter (roster : Roster) (number : Nat) (change : SessionCell → SessionCell) :
    (roster.alter number change).keys = roster.keys := by
  rw [keys, alter, List.map_map]
  apply List.map_congr_left
  intro entry _
  rw [Function.comp_apply]
  split
  · rfl
  · rfl

theorem shrinks_alter (roster : Roster) (number : Nat) (change : SessionCell → SessionCell) :
    roster.Shrinks (roster.alter number change) where
  keys_sublist := by simp only [keys_alter, List.Sublist.refl]
  next_eq := rfl
  capacity_eq := rfl

theorem shrinks_useSession (roster : Roster) (id : RequestId)
    (change : Session → α × Session) : roster.Shrinks (roster.useSession id change).2 := by
  unfold useSession
  split
  · exact Shrinks.refl roster
  · rename_i entry _
    split
    · exact shrinks_drop roster id
    · exact shrinks_alter roster entry.number fun _ => { session := (change _).2 }

theorem handle_cases (roster : Roster) (event : SessionEvent α) :
    roster.Shrinks (SessionStore.handle roster event).2 ∨
      ∃ id reference, roster.find? id = none ∧
        (SessionStore.handle roster event).2 = roster.makeRoom.enter id reference := by
  cases event with
  | create id reference =>
      change roster.Shrinks (roster.create id reference).2 ∨ _
      cases hfind : roster.find? id with
      | some entry =>
          refine .inl ?_
          rw [create, hfind]
          exact Shrinks.refl roster
      | none =>
          refine .inr ⟨id, reference, hfind, ?_⟩
          change (roster.create id reference).2 = _
          rw [create, hfind]
  | remove id => exact .inl (shrinks_drop roster id)
  | recreate id =>
      exact .inl (shrinks_useSession roster id fun session => ((), session.restart))
  | nextChunk id generated maxLength =>
      exact .inl (shrinks_useSession roster id (·.nextChunk generated maxLength))
  | use id change => exact .inl (shrinks_useSession roster id change)
  | clear => exact .inl (shrinks_of_sublist (List.nil_sublist _))
  | poison number =>
      exact .inl (shrinks_alter roster number fun cell => { cell with poisoned := true })

theorem Shrinks.mem_keys (hshrinks : before.Shrinks after) {entry : RosterEntry}
    (hentry : entry ∈ after.entries) :
    ∃ earlier ∈ before.entries, earlier.id = entry.id ∧ earlier.number = entry.number := by
  have hkey : (entry.id, entry.number) ∈ before.keys :=
    hshrinks.keys_sublist.subset (List.mem_map_of_mem hentry)
  obtain ⟨earlier, hearlier, heq⟩ := List.mem_map.1 hkey
  exact ⟨earlier, hearlier, congrArg Prod.fst heq, congrArg Prod.snd heq⟩

theorem orderly_iff_keys :
    roster.Orderly ↔ roster.keys.Pairwise (·.2 < ·.2) ∧ roster.keys.Pairwise (·.1 ≠ ·.1) ∧
      (∀ key ∈ roster.keys, key.2 < roster.next) ∧ roster.keys.length ≤ roster.capacity ∧
        0 < roster.capacity := by
  simp only [keys, List.pairwise_map, List.forall_mem_map, List.length_map]
  constructor
  · intro horderly
    exact ⟨horderly.ascending, horderly.distinct, horderly.issued, horderly.fits,
      horderly.room⟩
  · intro hgiven
    obtain ⟨hascending, hdistinct, hissued, hfits, hroom⟩ := hgiven
    exact ⟨hascending, hdistinct, hissued, hfits, hroom⟩

theorem Orderly.of_shrinks (horderly : before.Orderly) (hshrinks : before.Shrinks after) :
    after.Orderly := by
  obtain ⟨hsublist, hnext, hcapacity⟩ := hshrinks
  rw [orderly_iff_keys] at horderly ⊢
  rw [hnext, hcapacity]
  obtain ⟨hascending, hdistinct, hissued, hfits, hroom⟩ := horderly
  exact ⟨hascending.sublist hsublist, hdistinct.sublist hsublist,
    fun key hkey => hissued key (hsublist.subset hkey),
    Nat.le_trans hsublist.length_le hfits, hroom⟩

theorem shrinks_makeRoom (roster : Roster) : roster.Shrinks roster.makeRoom := by
  unfold makeRoom
  split
  · exact Shrinks.refl roster
  · exact shrinks_of_sublist (List.tail_sublist _)

theorem Orderly.length_makeRoom_lt (horderly : roster.Orderly) :
    roster.makeRoom.entries.length < roster.capacity := by
  have hfits := horderly.fits
  have hroom := horderly.room
  unfold makeRoom
  split
  · assumption
  · rw [List.length_tail]
    omega

theorem find?_eq_none_iff {id : RequestId} :
    roster.find? id = none ↔ ∀ entry ∈ roster.entries, entry.id ≠ id := by
  simp [find?]

theorem find?_makeRoom_eq_none {id : RequestId} (hfind : roster.find? id = none) :
    roster.makeRoom.find? id = none := by
  rw [find?_eq_none_iff] at hfind ⊢
  intro entry hentry
  obtain ⟨earlier, hearlier, hid, -⟩ := (shrinks_makeRoom roster).mem_keys hentry
  exact hid ▸ hfind earlier hearlier

theorem Orderly.enter (horderly : roster.Orderly) {id : RequestId} (reference : Tokens)
    (hfind : roster.find? id = none) (hroom : roster.entries.length < roster.capacity) :
    (roster.enter id reference).Orderly where
  ascending := by
    refine List.pairwise_append.2 ⟨horderly.ascending, List.pairwise_singleton _ _, ?_⟩
    intro entry hentry new hnew
    rw [List.mem_singleton.1 hnew]
    exact horderly.issued entry hentry
  distinct := by
    refine List.pairwise_append.2 ⟨horderly.distinct, List.pairwise_singleton _ _, ?_⟩
    intro entry hentry new hnew
    rw [List.mem_singleton.1 hnew]
    exact find?_eq_none_iff.1 hfind entry hentry
  issued := by
    intro entry hentry
    rcases List.mem_append.1 hentry with hold | hnew
    · exact Nat.lt_succ_of_lt (horderly.issued entry hold)
    · rw [List.mem_singleton.1 hnew]
      exact Nat.lt_succ_self _
  fits := by
    simp only [Roster.enter, List.length_append, List.length_singleton]
    exact hroom
  room := horderly.room

theorem Orderly.handle (horderly : roster.Orderly) (event : SessionEvent α) :
    (SessionStore.handle roster event).2.Orderly := by
  rcases handle_cases roster event with hshrinks | ⟨id, reference, hfind, hafter⟩
  · exact horderly.of_shrinks hshrinks
  · rw [hafter]
    apply (horderly.of_shrinks (shrinks_makeRoom roster)).enter reference
      (find?_makeRoom_eq_none hfind)
    rw [(shrinks_makeRoom roster).capacity_eq]
    exact horderly.length_makeRoom_lt

theorem orderly_new (backend : Backend) (matching : MatchSettings) (maxSessions : Nat) :
    (new backend matching maxSessions).Orderly where
  ascending := .nil
  distinct := .nil
  issued := fun _ hentry => nomatch hentry
  fits := Nat.zero_le _
  room := Nat.lt_of_lt_of_le Nat.zero_lt_one (Nat.le_max_left _ _)

theorem Precedes.refl (roster : Roster) : roster.Precedes roster where
  next_le := Nat.le_refl _
  origin entry hentry _ := ⟨entry, hentry, rfl, rfl⟩
  capacity_eq := rfl

theorem Precedes.trans {first second third : Roster} (hfirst : first.Precedes second)
    (hsecond : second.Precedes third) : first.Precedes third where
  next_le := Nat.le_trans hfirst.next_le hsecond.next_le
  origin := by
    intro entry hentry hnumber
    obtain ⟨middle, hmiddle, hid, hsame⟩ :=
      hsecond.origin entry hentry (Nat.lt_of_lt_of_le hnumber hfirst.next_le)
    obtain ⟨earlier, hearlier, hid', hsame'⟩ := hfirst.origin middle hmiddle (hsame ▸ hnumber)
    exact ⟨earlier, hearlier, hid'.trans hid, hsame'.trans hsame⟩
  capacity_eq := hsecond.capacity_eq.trans hfirst.capacity_eq

theorem Shrinks.precedes (hshrinks : before.Shrinks after) : before.Precedes after where
  next_le := Nat.le_of_eq hshrinks.next_eq.symm
  origin _ hentry _ := hshrinks.mem_keys hentry
  capacity_eq := hshrinks.capacity_eq

theorem precedes_enter (roster : Roster) (id : RequestId) (reference : Tokens) :
    roster.Precedes (roster.enter id reference) where
  next_le := Nat.le_succ _
  origin := by
    intro entry hentry hnumber
    rcases List.mem_append.1 hentry with hold | hnew
    · exact ⟨entry, hold, rfl, rfl⟩
    · rw [List.mem_singleton.1 hnew] at hnumber
      exact absurd hnumber (Nat.lt_irrefl _)
  capacity_eq := rfl

theorem precedes_handle (roster : Roster) (event : SessionEvent α) :
    roster.Precedes (SessionStore.handle roster event).2 := by
  rcases handle_cases roster event with hshrinks | ⟨id, reference, -, hafter⟩
  · exact hshrinks.precedes
  · rw [hafter]
    exact (shrinks_makeRoom roster).precedes.trans (precedes_enter _ id reference)

theorem Orderly.run (horderly : roster.Orderly) (events : List (SessionEvent α)) :
    (SessionStore.run roster events).2.Orderly := by
  induction events generalizing roster with
  | nil => exact horderly
  | cons event events ih => exact ih (horderly.handle event)

theorem precedes_run (roster : Roster) (events : List (SessionEvent α)) :
    roster.Precedes (SessionStore.run roster events).2 := by
  induction events generalizing roster with
  | nil => exact Precedes.refl roster
  | cons event events ih => exact (precedes_handle roster event).trans (ih _)

end Keys

section Numbers

variable {roster : Roster}

theorem numbered_new (backend : Backend) (matching : MatchSettings) (maxSessions : Nat) :
    (new backend matching maxSessions).Numbered :=
  fun _ hentry => nomatch hentry

theorem Numbered.of_sublist (hnumbered : roster.Numbered) {entries : List RosterEntry}
    (hsublist : entries.Sublist roster.entries) : Numbered { roster with entries } :=
  fun entry hentry => hnumbered entry (hsublist.subset hentry)

theorem Numbered.alter (hnumbered : roster.Numbered) {number : Nat}
    {change : SessionCell → SessionCell}
    (hchange : ∀ entry ∈ roster.entries, entry.number = number →
      (change entry.cell).session.number = number) : (roster.alter number change).Numbered := by
  intro entry hentry
  obtain ⟨earlier, hearlier, rfl⟩ := List.mem_map.1 hentry
  split
  · rename_i hnumber
    exact (hchange earlier hearlier hnumber).trans hnumber.symm
  · exact hnumbered earlier hearlier

theorem Numbered.makeRoom (hnumbered : roster.Numbered) : roster.makeRoom.Numbered := by
  unfold Roster.makeRoom
  split
  · exact hnumbered
  · exact hnumbered.of_sublist (List.tail_sublist _)

theorem Numbered.enter (hnumbered : roster.Numbered) (id : RequestId) (reference : Tokens) :
    (roster.enter id reference).Numbered := by
  intro entry hentry
  rcases List.mem_append.1 hentry with hold | hnew
  · exact hnumbered entry hold
  · rw [List.mem_singleton.1 hnew]
    rfl

theorem Numbered.create (hnumbered : roster.Numbered) (id : RequestId)
    (reference : Tokens) : (roster.create id reference).2.Numbered := by
  unfold Roster.create
  split
  · exact hnumbered
  · exact hnumbered.makeRoom.enter id reference

theorem Numbered.useSession (hnumbered : roster.Numbered) (id : RequestId)
    (change : Session → α × Session)
    (hkeeps : ∀ session, (change session).2.number = session.number) :
    (roster.useSession id change).2.Numbered := by
  unfold Roster.useSession
  split
  · exact hnumbered
  · rename_i entry hfind
    split
    · exact hnumbered.of_sublist List.filter_sublist
    · have hentry : entry ∈ roster.entries := List.mem_of_find?_eq_some hfind
      exact hnumbered.alter fun _ _ _ =>
        (hkeeps entry.cell.session).trans (hnumbered entry hentry)

theorem Numbered.handle (hnumbered : roster.Numbered) {event : SessionEvent α}
    (hkeeps : event.KeepsNumbers) : (SessionStore.handle roster event).2.Numbered := by
  cases event with
  | create id reference => exact hnumbered.create id reference
  | remove id => exact hnumbered.of_sublist List.filter_sublist
  | recreate id =>
      exact hnumbered.useSession id (fun session => ((), session.restart)) fun _ => rfl
  | nextChunk id generated maxLength =>
      exact hnumbered.useSession id (·.nextChunk generated maxLength)
        fun session => session.number_nextChunk generated maxLength
  | use id change => exact hnumbered.useSession id change hkeeps
  | clear => exact hnumbered.of_sublist (List.nil_sublist _)
  | poison number =>
      exact hnumbered.alter fun entry hentry hnumber =>
        (hnumbered entry hentry).trans hnumber

theorem Numbered.run (hnumbered : roster.Numbered) {events : List (SessionEvent α)}
    (hkeep : ∀ event ∈ events, event.KeepsNumbers) :
    (SessionStore.run roster events).2.Numbered := by
  induction events generalizing roster with
  | nil => exact hnumbered
  | cons event events ih =>
      rw [List.forall_mem_cons] at hkeep
      exact ih (hnumbered.handle hkeep.1) hkeep.2

end Numbers

end Roster

end Redraft
