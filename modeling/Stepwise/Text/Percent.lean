import Stepwise.Number.Reading
import Stepwise.Text.Search
import Stepwise.Text.Utf8

/-!
Addresses: the escapes in them, which are a percent sign and two hexadecimal digits for a byte, and
the named texts of their queries.
-/

namespace Stepwise.Text.Percent

/-- The byte that two digits write. -/
def byte? (high low : Char) : Option Nat :=
  match Reading.digits? 16 [high, low] with
  | some [h, l] => some (16 * h + l)
  | _ => none

/-- The bytes of a text with escapes. A percent sign without two digits stands for itself. -/
def bytes : List Char → List Nat
  | '%' :: high :: low :: rest =>
    match byte? high low with
    | some b => b :: bytes rest
    | none => '%'.toNat :: bytes (high :: low :: rest)
  | c :: rest => (String.singleton c).toUTF8.toList.map UInt8.toNat ++ bytes rest
  | [] => []

/-- The text that a text with escapes stands for. -/
def decode (s : List Char) : String := String.ofList (Utf8.decode (bytes s))

/-! ### Queries -/

/-- A text of a query, in which a plus stands for a blank. -/
def decodeQuery (s : List Char) : String := decode (s.map fun c => if c = '+' then ' ' else c)

/-- A text at its first equals sign. -/
def readPair (s : List Char) : String × String :=
  let name := s.takeWhile (· != '=')
  (decodeQuery name, decodeQuery (s.drop (name.length + 1)))

/-- The named texts of a query. -/
def readQuery (s : List Char) : List (String × String) :=
  ((splitAtText ['&'] s.length s).filter (!·.isEmpty)).map readPair

end Stepwise.Text.Percent
