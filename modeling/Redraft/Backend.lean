import Redraft.Text.Blank

namespace Redraft

inductive Backend where
  | sequential
  | parallel
  | indexed
deriving DecidableEq, Repr, Inhabited

namespace Backend

def all : List Backend := [sequential, parallel, indexed]

def name : Backend → String
  | sequential => "sequential"
  | parallel => "parallel"
  | indexed => "indexed"

def label : Backend → String
  | sequential => "Sequential"
  | parallel => "Parallel"
  | indexed => "Indexed"

def ofName? (text : String) : Option Backend := all.find? (·.name == text)

/-- The name as an operator writes it: blanks around it and the case of its letters do not
matter. -/
def parse? (text : String) : Option Backend :=
  all.find? fun backend =>
    Text.equalIgnoringCase backend.name.toList (Text.trim text.toList)

def available : List Backend := all

@[simp] theorem ofName?_name (backend : Backend) : ofName? backend.name = some backend := by
  cases backend <;> decide

end Backend

end Redraft
