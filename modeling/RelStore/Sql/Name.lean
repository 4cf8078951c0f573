/-
Which names databases, tables and columns may have, and which numbers LIMIT and OFFSET take.
-/
import RelStore.Sql.Token
import RelStore.Text.Case

namespace RelStore.Sql

/-- Words that mean nothing in this dialect but are refused as names all the same. -/
def reservedWords : List String :=
  ["ALTER", "INDEX", "OUTER", "LEFT", "RIGHT", "FULL", "CROSS", "UNION", "FOREIGN", "CHECK",
   "DEFAULT", "ALL", "EXISTS", "CASE", "WHEN", "THEN", "ELSE", "END", "CAST", "CONVERT"]

def isReserved (name : String) : Bool :=
  let upper := Text.upper name
  keywords.contains upper || reservedWords.contains upper

def isDatabaseNameChar (c : Char) : Bool := isWordChar c || c == '-'

/-- Whether the characters of a name are those of its kind. -/
def wellFormedName (kind : NameKind) (name : String) : Bool :=
  match kind, name.toList with
  | .database, text => !text.isEmpty && text.all isDatabaseNameChar
  | _, first :: rest => isWordStart first && rest.all isWordChar
  | _, [] => false

def maxNameLength : Nat := 64

/-- Accepts a name for a new object. -/
def checkName (kind : NameKind) (name : String) : Except Cause Unit :=
  if name.isEmpty then .error (.emptyName kind)
  else if maxNameLength < Text.length name then .error (.longName kind name)
  else if !wellFormedName kind name then .error (.malformedName kind name)
  else if isReserved name then .error (.reservedName kind name)
  else .ok ()

def maxPaging : Nat := 1000000

/-- Accepts whole numbers from zero to `maxPaging`. -/
def checkPaging (clause : PagingClause) (value : Binary64) : Except Cause Unit :=
  if !value.isInteger || value.lt .zero then .error (.badPaging clause value)
  else if (Binary64.ofNat maxPaging).lt value then .error (.largePaging clause value)
  else .ok ()

end RelStore.Sql
