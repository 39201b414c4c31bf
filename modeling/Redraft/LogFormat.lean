import Redraft.Text.Blank

namespace Redraft

inductive LogFormat where
  | pretty
  | json
deriving DecidableEq, Repr

namespace LogFormat

def name : LogFormat → String
  | pretty => "pretty"
  | json => "json"

/-- Any text but `json` asks for the format that people read. -/
def ofText (text : List Char) : LogFormat :=
  if Text.equalIgnoringCase (Text.trim text) json.name.toList then json else pretty

end LogFormat

end Redraft
