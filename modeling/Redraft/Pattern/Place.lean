import Redraft.Pattern.Expr

namespace Redraft.Pattern

/-- Whether a place is such an edge, given whether words reach it from both sides. -/
def Edge.holds (before after : Bool) : Edge → Bool
  | boundary => before != after
  | notBoundary => before == after
  | start => !before && after
  | stop => before && !after
  | startHalf => !before
  | stopHalf => !after

def isAsciiWord (c : Char) : Bool := c.isAlphanum || c == '_'

/-- Whether a condition holds between two neighbours, of which one may be missing. `isWord`
tells the characters of words, in the sense of Unicode or not. -/
def Look.holds (isWord : (unicode : Bool) → Char → Bool) (before after : Option Char) :
    Look → Bool
  | textStart => before.isNone
  | textEnd => after.isNone
  | lineStart => before.all (· == '\n')
  | lineEnd => after.all (· == '\n')
  | crlfStart => before.all fun c => c == '\n' || (c == '\r' && after != some '\n')
  | crlfEnd => after.all fun c => c == '\r' || (c == '\n' && before != some '\r')
  | word edge unicode => edge.holds (before.any (isWord unicode)) (after.any (isWord unicode))

def Look.holdsAfter (isWord : (unicode : Bool) → Char → Bool) (before : Option Char) :
    Look → Bool
  | textStart => before.isNone
  | lineStart => before.all (· == '\n')
  | crlfStart => before.all (· == '\n')
  | word .startHalf unicode => !before.any (isWord unicode)
  | _ => false

end Redraft.Pattern
