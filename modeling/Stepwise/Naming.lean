import Stepwise.Text.Case
import Stepwise.Value.Convert

/-!
Names: the id that a title gives, and the ids of runs.
-/

namespace Stepwise.Naming

/-- The characters that a title keeps: plain letters, digits, hyphens and blanks. -/
def isKept (c : Char) : Bool :=
  ('a' ≤ c && c ≤ 'z') || ('0' ≤ c && c ≤ '9') || c == '-' || Text.isBlank c

/-- Makes one character of each run of characters of a class. -/
def squeeze (p : Char → Bool) (c : Char) : List Char → List Char
  | [] => []
  | d :: rest =>
    if p d then
      match rest with
      | [] => [c]
      | e :: _ => if p e then squeeze p c rest else c :: squeeze p c rest
    else d :: squeeze p c rest

/-- The id of a title: small letters, and hyphens in the place of blanks. -/
def slug (title : String) : String :=
  let kept := (Text.lower title.toList).filter isKept
  let joined := squeeze Text.isBlank '-' (Text.trim kept)
  String.ofList (squeeze (· == '-') '-' joined)

/-- The id of a run that starts at a number of seconds, with the first characters of a random
text. -/
def runId (now : Value) (random : String) : Checked String := do
  let product ← match now with
    | .float x => pure (Value.float (x.mul (Binary64.ofInt 1000)))
    | .int n => pure (.int (n * 1000))
    | .bool b => pure (.int (if b then 1000 else 0))
    | v => pure v
  let millis ← product.toInt
  return "exec_" ++ Decimal.intString millis ++ "_" ++ String.ofList (random.toList.take 9)

end Stepwise.Naming
