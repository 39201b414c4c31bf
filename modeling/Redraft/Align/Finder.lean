import Redraft.Align.Block

namespace Redraft

structure MatchSettings where
  window : Window := {}
  /-- Very frequent output tokens do not start a match (positions finder only). -/
  autojunk : Bool := false
  /-- The shortest final block that counts, unless it covers the whole output. -/
  minTailMatch : Nat := 2
deriving DecidableEq, Repr

namespace Align

inductive AlignError where
  | blockOutOfRange (block : Block) (referenceLength generatedLength : Nat)
  | corruptIndex (detail : String)
deriving DecidableEq, Repr

def Block.describe (block : Block) : String :=
  "MatchBlock \x7b" ++ s!" reference_start: {block.referenceStart}" ++
    s!", generated_start: {block.generatedStart}, len: {block.length} " ++ "\x7d"

def AlignError.message : AlignError → String
  | blockOutOfRange block referenceLength generatedLength =>
    "matched block " ++ block.describe ++
      s!" out of range (reference {referenceLength}, generated {generatedLength})"
  | corruptIndex detail => "corrupt index: " ++ detail

class BlockFinder (σ : Type) where
  reference : σ → Tokens
  settings : σ → MatchSettings
  /-- The last block in absolute positions. -/
  lastBlock : σ → Tokens → Except AlignError (Option Block) × σ
  /-- Forgets everything but the reference and the settings. -/
  clear : σ → σ

/-- The reference after the block, if the block ends the output and is long enough. -/
def continuation (reference : Tokens) (settings : MatchSettings) (generated : Tokens)
    (maxLength : Nat) (block : Block) : Tokens :=
  if block.generatedEnd ≠ generated.length then []
  else if block.length < settings.minTailMatch ∧ block.generatedStart ≠ 0 then []
  else (reference.drop block.referenceEnd).take maxLength

def continuation? (reference : Tokens) (settings : MatchSettings) (generated : Tokens)
    (maxLength : Nat) (block : Block) : Option Tokens :=
  if block.generatedEnd ≠ generated.length then some []
  else if block.length < settings.minTailMatch ∧ block.generatedStart ≠ 0 then some []
  else reference.following? block.referenceEnd maxLength

def Block.inRange (block : Block) (reference generated : Tokens) :
    Except AlignError Block :=
  if reference.length < block.referenceEnd ∨ generated.length < block.generatedEnd then
    .error (.blockOutOfRange block reference.length generated.length)
  else .ok block

/-- The draft that follows `generated`, at most `maxLength` tokens. A finder that fails
proposes nothing and starts over. -/
def nextChunk {σ : Type} [BlockFinder σ] (finder : σ) (generated : Tokens)
    (maxLength : Nat) : Tokens × σ :=
  let reference := BlockFinder.reference finder
  if reference.isEmpty || maxLength == 0 then ([], finder)
  else if generated.isEmpty then (reference.take maxLength, finder)
  else
    match BlockFinder.lastBlock finder generated with
    | (.error _, finder) => ([], BlockFinder.clear finder)
    | (.ok none, finder) => ([], finder)
    | (.ok (some block), finder) =>
      match block.inRange reference generated with
      | .error _ => ([], BlockFinder.clear finder)
      | .ok block =>
        (continuation reference (BlockFinder.settings finder) generated maxLength block, finder)

/-- The same as far as sizes go: there is no draft without a plan, or where its end is too
large. -/
def nextChunk? {σ : Type} [BlockFinder σ] (finder : σ) (generated : Tokens)
    (maxLength : Nat) : Option (Tokens × σ) :=
  let reference := BlockFinder.reference finder
  let window := (BlockFinder.settings finder).window
  if reference.isEmpty || maxLength == 0 then some ([], finder)
  else if generated.isEmpty then some (reference.take maxLength, finder)
  else if window.plan? reference.length generated.length = none then none
  else
    match BlockFinder.lastBlock finder generated with
    | (.error _, finder) => some ([], BlockFinder.clear finder)
    | (.ok none, finder) => some ([], finder)
    | (.ok (some block), finder) =>
      match block.inRange reference generated with
      | .error _ => some ([], BlockFinder.clear finder)
      | .ok block =>
        (continuation? reference (BlockFinder.settings finder) generated maxLength block).map
          (·, finder)

theorem length_continuation_le (reference : Tokens) (settings : MatchSettings)
    (generated : Tokens) (maxLength : Nat) (block : Block) :
    (continuation reference settings generated maxLength block).length ≤ maxLength := by
  unfold continuation
  split
  · simp
  · split
    · simp
    · exact List.length_take_le ..

end Align

end Redraft
