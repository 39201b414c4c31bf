import Redraft.Align.Diagonals
import Redraft.Align.MatchTable
import Redraft.Align.Positions
import Redraft.Settings

namespace Redraft

open Align

inductive Matcher where
  | sequential (finder : PositionFinder)
  | parallel (finder : DiagonalFinder)
  | indexed (finder : TableFinder)

namespace Matcher

def build (backend : Backend) (reference : Tokens) (settings : MatchSettings) : Matcher :=
  match backend with
  | .sequential => .sequential { reference, settings }
  | .parallel => .parallel { reference, settings }
  | .indexed => .indexed { reference, settings }

def backend : Matcher → Backend
  | sequential _ => .sequential
  | parallel _ => .parallel
  | indexed _ => .indexed

def reference : Matcher → Tokens
  | sequential finder => finder.reference
  | parallel finder => finder.reference
  | indexed finder => finder.reference

def settings : Matcher → MatchSettings
  | sequential finder => finder.settings
  | parallel finder => finder.settings
  | indexed finder => finder.settings

def nextChunk : Matcher → Tokens → Nat → Tokens × Matcher
  | sequential finder, generated, maxLength =>
    (Align.nextChunk finder generated maxLength).map id sequential
  | parallel finder, generated, maxLength =>
    (Align.nextChunk finder generated maxLength).map id parallel
  | indexed finder, generated, maxLength =>
    (Align.nextChunk finder generated maxLength).map id indexed

def nextChunk? : Matcher → Tokens → Nat → Option (Tokens × Matcher)
  | sequential finder, generated, maxLength =>
    (Align.nextChunk? finder generated maxLength).map (·.map id sequential)
  | parallel finder, generated, maxLength =>
    (Align.nextChunk? finder generated maxLength).map (·.map id parallel)
  | indexed finder, generated, maxLength =>
    (Align.nextChunk? finder generated maxLength).map (·.map id indexed)

def reset : Matcher → Matcher
  | sequential finder => sequential (BlockFinder.clear finder)
  | parallel finder => parallel (BlockFinder.clear finder)
  | indexed finder => indexed (BlockFinder.clear finder)

@[simp] theorem backend_build (backend : Backend) (reference : Tokens)
    (settings : MatchSettings) : (build backend reference settings).backend = backend := by
  cases backend <;> rfl

@[simp] theorem reference_build (backend : Backend) (reference : Tokens)
    (settings : MatchSettings) : (build backend reference settings).reference = reference := by
  cases backend <;> rfl

@[simp] theorem settings_build (backend : Backend) (reference : Tokens)
    (settings : MatchSettings) : (build backend reference settings).settings = settings := by
  cases backend <;> rfl

end Matcher

end Redraft
