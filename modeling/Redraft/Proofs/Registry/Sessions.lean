import Redraft.Proofs.Matcher
import Redraft.Proofs.Registry.Listing

namespace Redraft

variable {α : Type} {backend : Backend} {matching : MatchSettings}

namespace Session

variable {session : Session}

/-- The output that the session has recorded once it has drafted for `output`. Where the
check lets it pass, the part that was recorded before stays as it was. -/
def recorded (session : Session) (output : Tokens) : Tokens :=
  if session.isExtendedBy output then
    session.generated ++ output.drop session.generated.length
  else output

theorem recorded_eq_self_iff (session : Session) (output : Tokens) :
    session.recorded output = output ↔
      (session.isExtendedBy output = true → session.generated <+: output) := by
  unfold recorded
  split
  · rename_i hextends
    rw [← List.prefix_iff_eq_append]
    exact ⟨fun hprefix _ => hprefix, fun hprefix => hprefix hextends⟩
  · rename_i hrewound
    exact iff_of_true rfl fun hextends => absurd hextends hrewound

def Good (backend : Backend) (matching : MatchSettings) (session : Session) : Prop :=
  Matcher.Good session.reference matching backend session.matcher

theorem good_start (id : RequestId) (reference : Tokens) (backend : Backend)
    (matching : MatchSettings) (number : Nat) :
    (start id reference backend matching number).Good backend matching :=
  Matcher.good_build backend reference matching

theorem Good.restart (good : session.Good backend matching) :
    session.restart.Good backend matching :=
  Matcher.Good.reset good

theorem Good.nextChunk (good : session.Good backend matching) (output : Tokens)
    (limit : Nat) : (session.nextChunk output limit).2.Good backend matching := by
  unfold Session.nextChunk
  split
  · exact (Matcher.Good.nextChunk good _ limit).2
  · exact good

theorem recorded_congr {other : Session} (hgenerated : other.generated = session.generated)
    (output : Tokens) : other.recorded output = session.recorded output := by
  rw [recorded, recorded, isExtendedBy, isExtendedBy, hgenerated]

theorem nextChunk_of_rewound {output : Tokens} (hrewound : session.isExtendedBy output = false)
    (limit : Nat) :
    session.nextChunk output limit =
      (.error (.sequenceRewound session.id session.generated.length output.length),
        session) := by
  rw [Session.nextChunk, hrewound]
  rfl

theorem isExtendedBy_restart (session : Session) (output : Tokens) :
    session.restart.isExtendedBy output = true := rfl

theorem recorded_restart (session : Session) (output : Tokens) :
    session.restart.recorded output = output := rfl

end Session

namespace Registry

variable {registry : Registry} {id : RequestId} {session : Session}

def session? (registry : Registry) (id : RequestId) : Option Session :=
  ((registry.handle? id).bind (registry.cells[·]?)).bind fun cell =>
    if cell.poisoned then none else some cell.session

theorem session?_eq_some_iff :
    registry.session? id = some session ↔
      ∃ number, registry.handle? id = some number ∧
        registry.cells[number]? = some { session } := by
  rw [session?, Option.bind_eq_some_iff]
  constructor
  · intro hgiven
    obtain ⟨⟨session', poisoned⟩, hcell, hfree⟩ := hgiven
    obtain ⟨number, hnumber, hcell⟩ := Option.bind_eq_some_iff.1 hcell
    cases poisoned with
    | true => cases hfree
    | false =>
        cases hfree
        exact ⟨number, hnumber, hcell⟩
  · intro hgiven
    obtain ⟨number, hnumber, hcell⟩ := hgiven
    exact ⟨_, Option.bind_eq_some_iff.2 ⟨number, hnumber, hcell⟩, rfl⟩

def leave (registry : Registry) (id : RequestId) (session : Session) : Registry :=
  match registry.handle? id with
  | none => registry
  | some number =>
    { registry with cells := registry.cells.setIfInBounds number { session } }

theorem session?_leave (hsession : registry.session? id = some session) (left : Session) :
    (registry.leave id left).session? id = some left := by
  obtain ⟨number, hnumber, hcell⟩ := session?_eq_some_iff.1 hsession
  rw [leave, hnumber]
  refine session?_eq_some_iff.2 ⟨number, hnumber, ?_⟩
  rw [Array.getElem?_setIfInBounds, if_pos rfl, if_pos (Array.getElem?_eq_some_iff.1 hcell).1]

theorem leave_leave (registry : Registry) (id : RequestId) (first second : Session) :
    (registry.leave id first).leave id second = registry.leave id second := by
  rw [leave, leave, leave]
  cases hnumber : registry.handle? id with
  | none =>
      dsimp only
      rw [hnumber]
  | some number =>
      have hkept : Registry.handle? { registry with
          cells := registry.cells.setIfInBounds number { session := first } } id =
            some number := hnumber
      dsimp only
      rw [hkept]
      dsimp only
      rw [Array.setIfInBounds_setIfInBounds]

theorem useSession_eq_leave (hsession : registry.session? id = some session)
    (change : Session → α × Session) :
    registry.useSession id change =
      (.ok (change session).1, registry.leave id (change session).2) := by
  obtain ⟨number, hnumber, hcell⟩ := session?_eq_some_iff.1 hsession
  rw [useSession, leave, hnumber]
  dsimp only
  rw [useHandle, hcell]
  rfl

theorem recreate_eq_leave (hsession : registry.session? id = some session) :
    registry.recreate id = (.ok (), registry.leave id session.restart) :=
  useSession_eq_leave hsession _

theorem nextChunk_eq_leave (hsession : registry.session? id = some session) (output : Tokens)
    (limit : Nat) :
    registry.nextChunk id output limit =
      ((session.nextChunk output limit).1,
        registry.leave id (session.nextChunk output limit).2) := by
  rw [nextChunk_eq, useSession_eq_leave hsession]
  rfl

theorem useSession_of_no_session (hnone : registry.session? id = none) :
    ∃ error after, (∀ holder stored received,
        error ≠ SessionError.sequenceRewound holder stored received) ∧
      ∀ {α : Type} (change : Session → α × Session),
        registry.useSession id change = (.error error, after) := by
  cases hnumber : registry.handle? id with
  | none =>
      refine ⟨.notFound id, registry, by rintro _ _ _ ⟨⟩, fun change => ?_⟩
      rw [useSession, hnumber]
  | some number =>
      refine ⟨.poisoned id, (registry.remove id).2, by rintro _ _ _ ⟨⟩, fun change => ?_⟩
      rw [session?, hnumber, Option.bind_some] at hnone
      rw [useSession, hnumber]
      dsimp only
      rw [useHandle]
      cases hcell : registry.cells[number]? with
      | none => rfl
      | some cell =>
          rw [hcell, Option.bind_some] at hnone
          dsimp only
          cases hpoisoned : cell.poisoned with
          | true => rfl
          | false =>
              rw [hpoisoned] at hnone
              cases hnone

theorem evict_live (registry : Registry) : ∃ live, registry.evict = { registry with live } := by
  fun_induction evict registry with
  | case1 registry => exact ⟨registry.live, rfl⟩
  | case2 registry _ id _ rest _ ih => exact ih
  | case3 registry => exact ⟨registry.live, rfl⟩
  | case4 registry => exact ⟨registry.live, rfl⟩

theorem create_of_absent (habsent : registry.contains id = false) (reference : Tokens) :
    (registry.create id reference).1 = .ok () ∧
      (registry.create id reference).2.session? id =
        some (.start id reference registry.backend registry.matching registry.created) := by
  obtain ⟨live, hevict⟩ := evict_live registry
  rw [create, habsent, hevict]
  refine ⟨rfl, session?_eq_some_iff.2 ⟨registry.cells.size, ?_, ?_⟩⟩
  · exact Std.HashMap.getElem?_insert_self
  · exact Array.getElem?_push_size

theorem contains_of_session? (hsession : registry.session? id = some session) :
    registry.contains id = true := by
  obtain ⟨number, hnumber, -⟩ := session?_eq_some_iff.1 hsession
  rw [contains_eq_isSome, hnumber]
  rfl

section Absent

variable {other : RequestId}

theorem absent_remove (habsent : registry.contains other = false) (id : RequestId) :
    (registry.remove id).2.contains other = false := by
  rw [← handle?_eq_none_iff] at habsent ⊢
  rw [handle?_remove, habsent, ite_self]

theorem absent_useSession (habsent : registry.contains other = false) (id : RequestId)
    (change : Session → α × Session) :
    (registry.useSession id change).2.contains other = false := by
  unfold useSession useHandle
  split
  · exact habsent
  · rename_i number _
    cases registry.cells[number]? with
    | none => exact absent_remove habsent id
    | some cell =>
        dsimp only
        cases cell.poisoned with
        | true => exact absent_remove habsent id
        | false => exact habsent

theorem absent_evict (habsent : registry.contains other = false) :
    registry.evict.contains other = false := by
  fun_induction evict registry with
  | case1 registry => exact habsent
  | case2 registry _ id _ rest _ ih => exact ih (absent_remove habsent id)
  | case3 registry => exact habsent
  | case4 registry => exact habsent

theorem absent_create (habsent : registry.contains other = false) {id : RequestId}
    (hother : id ≠ other) (reference : Tokens) :
    (registry.create id reference).2.contains other = false := by
  unfold create
  split
  · exact habsent
  · have hevicted := (handle?_eq_none_iff ..).2 (absent_evict habsent)
    rw [← handle?_eq_none_iff]
    exact ((handle?_enter registry.evict id other reference).trans (if_neg hother)).trans
      hevicted

end Absent

/-- All sessions there ever were have matchers of one kind, in good state. -/
structure Sound (backend : Backend) (matching : MatchSettings) (registry : Registry) :
    Prop where
  backend_eq : registry.backend = backend
  matching_eq : registry.matching = matching
  good : ∀ cell ∈ registry.cells, cell.session.Good backend matching

theorem sound_new (backend : Backend) (matching : MatchSettings) (maxSessions : Nat) :
    Sound backend matching (new backend matching maxSessions) where
  backend_eq := rfl
  matching_eq := rfl
  good _ hcell := absurd hcell (Array.not_mem_empty _)

theorem Sound.session?_good (hsound : registry.Sound backend matching)
    (hsession : registry.session? id = some session) : session.Good backend matching := by
  obtain ⟨number, -, hcell⟩ := session?_eq_some_iff.1 hsession
  exact hsound.good { session } (Array.mem_of_getElem? hcell)

theorem Sound.create (hsound : registry.Sound backend matching) (id : RequestId)
    (reference : Tokens) : (registry.create id reference).2.Sound backend matching := by
  obtain ⟨live, hevict⟩ := evict_live registry
  unfold Registry.create
  split
  · exact hsound
  · rw [hevict]
    refine ⟨hsound.backend_eq, hsound.matching_eq, ?_⟩
    intro cell hcell
    rcases Array.mem_push.1 hcell with hold | hnew
    · exact hsound.good cell hold
    · rw [hnew, hsound.backend_eq, hsound.matching_eq]
      exact Session.good_start ..

theorem Sound.remove (hsound : registry.Sound backend matching) (id : RequestId) :
    (registry.remove id).2.Sound backend matching :=
  ⟨hsound.backend_eq, hsound.matching_eq, hsound.good⟩

theorem Sound.poison (hsound : registry.Sound backend matching) (number : Nat) :
    (registry.poison number).Sound backend matching := by
  refine ⟨hsound.backend_eq, hsound.matching_eq, ?_⟩
  intro cell hcell
  obtain ⟨index, hindex⟩ := Array.mem_iff_getElem?.1 hcell
  rw [Registry.poison, Array.getElem?_modify] at hindex
  split at hindex
  · obtain ⟨earlier, hearlier, rfl⟩ := Option.map_eq_some_iff.1 hindex
    exact hsound.good earlier (Array.mem_of_getElem? hearlier)
  · exact hsound.good cell (Array.mem_of_getElem? hindex)

theorem Sound.clear (hsound : registry.Sound backend matching) :
    registry.clear.Sound backend matching :=
  ⟨hsound.backend_eq, hsound.matching_eq, hsound.good⟩

section Change

variable {change : Session → α × Session}

theorem Sound.useHandle (hsound : registry.Sound backend matching) (number : Nat)
    (hchange : ∀ session, session.Good backend matching →
      (change session).2.Good backend matching) :
    (registry.useHandle number change).2.Sound backend matching := by
  unfold Registry.useHandle
  cases hcell : registry.cells[number]? with
  | none => exact hsound
  | some cell =>
      dsimp only
      cases cell.poisoned with
      | true => exact hsound
      | false =>
          refine ⟨hsound.backend_eq, hsound.matching_eq, ?_⟩
          intro other hother
          rcases Array.mem_or_eq_of_mem_setIfInBounds hother with hold | hnew
          · exact hsound.good other hold
          · rw [hnew]
            exact hchange cell.session (hsound.good cell (Array.mem_of_getElem? hcell))

theorem Sound.useSession (hsound : registry.Sound backend matching) (id : RequestId)
    (hchange : ∀ session, session.Good backend matching →
      (change session).2.Good backend matching) :
    (registry.useSession id change).2.Sound backend matching := by
  unfold Registry.useSession
  split
  · exact hsound
  · rename_i number _
    have hused := hsound.useHandle number hchange
    split
    · rename_i hanswer
      rw [hanswer] at hused
      exact hused
    · rename_i hnone
      rw [hnone] at hused
      exact hused.remove id

end Change

end Registry

end Redraft
