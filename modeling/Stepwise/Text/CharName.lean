import Stepwise.Text.Case
import Stepwise.Text.CharNameTable

/-!
Characters by name.
-/

namespace Stepwise.Text

def readNameEntry (entry : List Char) : String × Nat :=
  let code := entry.takeWhile (· != ' ')
  (String.ofList (entry.drop (code.length + 1)), hexValue code)

def charNames : List (String × Nat) :=
  (CharNameTable.entries.toList.splitOn ';').map readNameEntry

/-- The character of a name; the case of the name does not count. -/
def charOfName? (name : String) : Option Char :=
  (charNames.lookup (upperString name)).map Char.ofNat

end Stepwise.Text
