import Std.Data.HashMap
import Redraft.Session

/-!
The live sessions by request, at most as many as the capacity allows. Each session sits in a
cell of its own, found by the session's number, so that someone who keeps the number of a
session can go on using it after the registry has let go of it. A session whose user failed
while working on it is poisoned: nobody can use it any more, and the registry drops it when
it is next asked for.
-/

namespace Redraft

structure SessionCell where
  session : Session
  poisoned : Bool := false

structure Registry where
  backend : Backend
  matching : MatchSettings
  /-- One is the smallest capacity. -/
  capacity : Nat
  /-- The number of each live session. -/
  live : Std.HashMap RequestId Nat := {}
  /-- Every session there ever was, by number. -/
  cells : Array SessionCell := #[]

namespace Registry

def new (backend : Backend) (matching : MatchSettings) (maxSessions : Nat) : Registry :=
  { backend, matching, capacity := max maxSessions 1 }

def ofSettings (settings : Settings) : Registry :=
  new settings.backend settings.matching settings.maxSessions

def contains (registry : Registry) (id : RequestId) : Bool := registry.live.contains id

def size (registry : Registry) : Nat := registry.live.size

def isEmpty (registry : Registry) : Bool := registry.live.isEmpty

/-- The number of the session, by which it can be used without the registry. -/
def handle? (registry : Registry) (id : RequestId) : Option Nat := registry.live[id]?

def olderEntry (a : Option (RequestId × Nat)) (b : RequestId × Nat) :
    Option (RequestId × Nat) :=
  match a with
  | none => some b
  | some a => some (if b.2 < a.2 then b else a)

def oldest? (registry : Registry) : Option RequestId :=
  (registry.live.toList.foldl olderEntry none).map (·.1)

def evict (registry : Registry) : Registry :=
  if registry.capacity ≤ registry.live.size then
    match registry.oldest? with
    | none => registry
    | some id =>
      let rest := registry.live.erase id
      if _h : rest.size < registry.live.size then evict { registry with live := rest }
      else registry
  else registry
termination_by registry.live.size

def create (registry : Registry) (id : RequestId) (reference : Tokens) :
    Except SessionError Unit × Registry :=
  if registry.contains id then (.error (.alreadyExists id), registry)
  else
    let registry := registry.evict
    let number := registry.cells.size
    let session := Session.start id reference registry.backend registry.matching number
    (.ok (), { registry with
      live := registry.live.insert id number
      cells := registry.cells.push { session } })

def remove (registry : Registry) (id : RequestId) : Bool × Registry :=
  (registry.contains id, { registry with live := registry.live.erase id })

def clear (registry : Registry) : Registry := { registry with live := {} }

/-- Uses the session of a number, live or not. A poisoned one cannot be used. -/
def useHandle {α : Type} (registry : Registry) (number : Nat) (use : Session → α × Session) :
    Option α × Registry :=
  match registry.cells[number]? with
  | none => (none, registry)
  | some cell =>
    if cell.poisoned then (none, registry)
    else
      let (answer, session) := use cell.session
      (some answer,
        { registry with cells := registry.cells.setIfInBounds number { session } })

def poison (registry : Registry) (number : Nat) : Registry :=
  { registry with
    cells := registry.cells.modify number fun cell => { cell with poisoned := true } }

/-- Uses the live session of a request, and drops it if it is poisoned. -/
def useSession {α : Type} (registry : Registry) (id : RequestId)
    (use : Session → α × Session) : Except SessionError α × Registry :=
  match registry.handle? id with
  | none => (.error (.notFound id), registry)
  | some number =>
    match registry.useHandle number use with
    | (some answer, registry) => (.ok answer, registry)
    | (none, registry) =>
      (.error (.poisoned id), { registry with live := registry.live.erase id })

def recreate (registry : Registry) (id : RequestId) : Except SessionError Unit × Registry :=
  registry.useSession id fun session => ((), session.restart)

def nextChunk (registry : Registry) (id : RequestId) (generated : Tokens) (maxLength : Nat) :
    Except SessionError Tokens × Registry :=
  match registry.useSession id (·.nextChunk generated maxLength) with
  | (.ok answer, registry) => (answer, registry)
  | (.error error, registry) => (.error error, registry)

def created (registry : Registry) : Nat := registry.cells.size

@[simp] theorem size_new (backend : Backend) (matching : MatchSettings) (maxSessions : Nat) :
    (new backend matching maxSessions).size = 0 := by
  simp [new, size]

@[simp] theorem contains_clear (registry : Registry) (id : RequestId) :
    registry.clear.contains id = false := by
  simp [clear, contains]

@[simp] theorem created_clear (registry : Registry) : registry.clear.created = registry.created :=
  rfl

end Registry

end Redraft
