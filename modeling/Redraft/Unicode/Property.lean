import Redraft.Unicode.Binary
import Redraft.Unicode.Categories
import Redraft.Unicode.Folding
import Redraft.Unicode.Scripts

namespace Redraft.Unicode

def looseName (name : List Char) : List Char :=
  let kept := match name with
    | c :: d :: rest => if c.toLower == 'i' && d.toLower == 's' then rest else name
    | _ => name
  let plain := (kept.filter fun c => c.toNat < 0x80 && !(c == ' ' || c == '_' || c == '-')).map
    Char.toLower
  if kept.length < name.length && plain == ['c'] then ['i', 's', 'c'] else plain

def sameName (loose : List Char) (name : String) : Bool := looseName name.toList == loose

def lookup? (table : List (String × String × String)) (loose : List Char) : Option CharSet :=
  (table.find? fun (short, long, _) => sameName loose short || sameName loose long).map
    fun (_, _, code) => Coded.set code

/-- Categories that stand for several: short name, long name and parts. -/
def categoryGroups : List (String × String × List String) := [
  ("LC", "Cased_Letter", ["Lu", "Ll", "Lt"]),
  ("L", "Letter", ["Lu", "Ll", "Lt", "Lm", "Lo"]),
  ("M", "Mark", ["Mn", "Mc", "Me"]),
  ("N", "Number", ["Nd", "Nl", "No"]),
  ("P", "Punctuation", ["Pc", "Pd", "Ps", "Pe", "Pi", "Pf", "Po"]),
  ("S", "Symbol", ["Sm", "Sc", "Sk", "So"]),
  ("Z", "Separator", ["Zs", "Zl", "Zp"]),
  ("C", "Other", ["Cc", "Cf", "Cn", "Co"])]

def categoryAliases : List (String × String) := [
  ("cntrl", "Cc"), ("digit", "Nd"), ("punct", "P"), ("Combining_Mark", "M")]

def simpleCategory? (loose : List Char) : Option CharSet := lookup? categoryTable loose

def category (name : String) : CharSet :=
  (simpleCategory? (looseName name.toList)).getD .empty

def groupedCategory? (loose : List Char) : Option CharSet :=
  (categoryGroups.find? fun (short, long, _) => sameName loose short || sameName loose long).map
    fun (_, _, parts) => (parts.map category).foldl CharSet.union .empty

def ascii : CharSet := .ofRange '\x00' '\x7f'

def category? (loose : List Char) : Option CharSet :=
  if sameName loose "Any" then some .all
  else if sameName loose "ASCII" then some ascii
  else if sameName loose "Assigned" then some (category "Cn").complement
  else
    let loose := ((categoryAliases.find? fun (other, _) => sameName loose other).map
      fun (_, name) => looseName name.toList).getD loose
    (simpleCategory? loose).or (groupedCategory? loose)

def scriptAliases : List (String × String) := [("Qaac", "Coptic"), ("Qaai", "Inherited")]

def scriptName (loose : List Char) : List Char :=
  ((scriptAliases.find? fun (other, _) => sameName loose other).map
    fun (_, name) => looseName name.toList).getD loose

def script? (loose : List Char) : Option CharSet := lookup? scriptTable (scriptName loose)

def scriptExtension? (loose : List Char) : Option CharSet := do
  let loose := scriptName loose
  let (short, _, code) ← scriptTable.find? fun (short, long, _) =>
    sameName loose short || sameName loose long
  let listed := scriptExtensionTable.map fun (scripts, code) =>
    (Coded.words scripts, Coded.set code)
  let (used, unused) := listed.partition fun (scripts, _) => scripts.contains short.toList
  pure (((Coded.set code).difference ((unused.map (·.2)).foldl CharSet.union .empty)).union
    ((used.map (·.2)).foldl CharSet.union .empty))

def binary? (loose : List Char) : Option CharSet := lookup? binaryTable loose

def binary (name : String) : CharSet := (binary? (looseName name.toList)).getD .empty

def property? (name : List Char) : Option CharSet :=
  let loose := looseName name
  ((binary? loose).or (category? loose)).or (script? loose)

def propertyValue? (name value : List Char) : Option CharSet :=
  let loose := looseName name
  let value := looseName value
  if ["gc", "General_Category"].any (sameName loose) then category? value
  else if ["sc", "Script"].any (sameName loose) then script? value
  else if ["scx", "Script_Extensions"].any (sameName loose) then scriptExtension? value
  else none

def digits : CharSet := category "Nd"

def spaces : CharSet := binary "White_Space"

/-- The characters of words: letters, marks, digits, connectors and joiners. -/
def wordCharacters : CharSet :=
  [(groupedCategory? ['m']).getD .empty, digits, category "Pc", binary "Join_Control"].foldl
    CharSet.union (binary "Alphabetic")

def alphabetic : CharSet := binary "Alphabetic"

def numeric : CharSet := (groupedCategory? ['n']).getD .empty

end Redraft.Unicode
