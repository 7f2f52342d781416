import Stepwise.Prompt.Builtin
import Stepwise.Text.Search

/-!
The store of prompts. A prompt is looked up on a server, if there is one, and else among the
fallbacks. What was found is used again until its time is over.
-/

namespace Stepwise

/-- A text that was found, and when its time is over. -/
structure CachedPrompt where
  text : String
  expiry : Binary64
  deriving Inhabited

structure PromptStore where
  /-- The prompts for keys of which the server knows nothing. -/
  fallbacks : Table String := Builtin.prompts
  /-- For how many seconds a text is used again. -/
  lifetime : Binary64 := Binary64.ofInt 60
  /-- Is there a server to look prompts up on? -/
  served : Bool := false
  cached : Table CachedPrompt := []
  deriving Inhabited

namespace PromptStore

/-- Where the prompt of a key is kept. -/
def promptKey (key : String) : String := "prompts:" ++ key

/-- The field of the prompt itself. -/
def templateField : String := "template"

/-- A text in which a backslash before an `n` stands for a line break. -/
def unescaped (s : String) : String :=
  String.ofList (Text.replaceAll ['\\', 'n'] ['\n'] s.toList)

/-- The fallback of a key, empty where there is none. -/
def fallback (p : PromptStore) (key : String) : String := (p.fallbacks.get? key).getD ""

/-- The prompt that the server has for a key, unless it is empty or the server is down. -/
def fromServer? (key : String) : StateM Session (Option String) := do
  match ← (Client.hashText? (promptKey key) templateField).run with
  | .ok (some "") => return none
  | .ok (some text) => return some (unescaped text)
  | .ok none => return none
  | .error _ => return none

/-- What a lookup finds now. -/
def lookup (p : PromptStore) (key : String) : StateM Session String := do
  let found ← if p.served then fromServer? key else pure none
  return found.getD (p.fallback key)

/-- The text that was found before and may be used again. -/
def cached? (p : PromptStore) (now : Binary64) (key : String) : Option String :=
  match p.cached.get? key with
  | some c => if now.lt c.expiry then some c.text else none
  | none => none

/-- The prompt of a key at a time. -/
def get (p : PromptStore) (now : Binary64) (key : String) : StateM Session (String × PromptStore) := do
  match p.cached? now key with
  | some text => return (text, p)
  | none =>
    let text ← p.lookup key
    return (text, { p with cached := p.cached.set key ⟨text, now.add p.lifetime⟩ })

/-- Forgets what was found for a key, or for all keys. -/
def invalidate (p : PromptStore) : Option String → PromptStore
  | some key => { p with cached := p.cached.erase key }
  | none => { p with cached := [] }

end PromptStore

end Stepwise
