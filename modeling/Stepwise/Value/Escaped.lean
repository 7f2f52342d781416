import Stepwise.Value.Written

/-!
Escaped texts: markup characters replaced by references, so that a text stands for itself inside
markup.
-/

namespace Stepwise

namespace Text

def escapeChar (c : Char) : List Char :=
  if c == '&' then "&amp;".toList
  else if c == '<' then "&lt;".toList
  else if c == '>' then "&gt;".toList
  else if c == '\'' then "&#39;".toList
  else if c == '"' then "&#34;".toList
  else [c]

def escapeMarkup (s : String) : String := String.ofList (s.toList.flatMap escapeChar)

end Text

namespace Value

/-- The escaped text of a value. What is escaped already stays as it is. -/
def escaped : Value → Checked String
  | markup s => .ok s
  | v => do .ok (Text.escapeMarkup (← v.shown))

end Value

end Stepwise
