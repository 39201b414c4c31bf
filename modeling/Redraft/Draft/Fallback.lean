import Redraft.Tokens

namespace Redraft.Draft

/-- A draft source that keeps a memory of type `μ`. -/
structure Fallback (μ : Type) where
  name : String
  propose : μ → Tokens → Nat → Tokens × μ

namespace Fallback

variable {μ : Type}

def ofFunction (name : String) (draft : Tokens → Nat → Tokens) : Fallback μ where
  name := name
  propose memory context maxLength := (draft context maxLength, memory)

def fixed (draft : Tokens) : Fallback μ := ofFunction "fallback" fun _ _ => draft

structure CallLog where
  calls : Nat := 0
  lastContext : Tokens := []
deriving DecidableEq, Repr

/-- Offers one and the same draft, cut to the limit, and keeps a log. -/
def recording (draft : Tokens) : Fallback CallLog where
  name := "recording"
  propose log context maxLength := (draft.take maxLength, ⟨log.calls + 1, context⟩)

end Fallback

end Redraft.Draft
