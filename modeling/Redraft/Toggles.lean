import Redraft.Settings

namespace Redraft

structure Toggles where
  speculativeEdit : Bool := true
  ngramFallback : Bool := true
deriving DecidableEq, Repr

namespace Toggles

def ofSettings (settings : Settings) : Toggles :=
  { speculativeEdit := settings.speculativeEdit, ngramFallback := settings.ngramFallback }

def flip (toggles : Toggles) (speculativeEdit ngramFallback : Option Bool) : Toggles :=
  { speculativeEdit := speculativeEdit.getD toggles.speculativeEdit
    ngramFallback := ngramFallback.getD toggles.ngramFallback }

@[simp] theorem flip_none (toggles : Toggles) : toggles.flip none none = toggles := rfl

end Toggles

/-- Sets of switches and the handles on them. Several handles may share a set. -/
structure Switchboard where
  sets : Array Toggles
  /-- The set that each handle moves. -/
  handles : Array Nat
deriving Repr

namespace Switchboard

def single (toggles : Toggles) : Switchboard := ⟨#[toggles], #[0]⟩

def readAll (board : Switchboard) : List Toggles :=
  board.handles.toList.filterMap (board.sets[·]?)

def flip (board : Switchboard) (handle : Nat) (speculativeEdit ngramFallback : Option Bool) :
    Switchboard :=
  match board.handles[handle]? with
  | none => board
  | some set =>
    { board with sets := board.sets.modify set (·.flip speculativeEdit ngramFallback) }

def share (board : Switchboard) (handle : Nat) : Switchboard :=
  match board.handles[handle]? with
  | none => board
  | some set => { board with handles := board.handles.push set }

def add (board : Switchboard) (toggles : Toggles) : Switchboard :=
  ⟨board.sets.push toggles, board.handles.push board.sets.size⟩

@[simp] theorem readAll_single (toggles : Toggles) : (single toggles).readAll = [toggles] := rfl

end Switchboard

end Redraft
