import Stepwise.Execution.World
import Stepwise.Startup
import Stepwise.Text.Class

/-!
The provider of completions: where it is reached, with which key, and what is taken from its answer.
-/

namespace Stepwise

/-- How a provider is to be reached. What is left open comes from the settings. -/
structure ProviderOptions where
  key? : Option String := none
  address? : Option String := none
  /-- How long to wait for an answer, in seconds. -/
  timeout : Value := .float (Binary64.ofInt 60)
  deriving Inhabited

/-- A provider that can be reached. -/
structure Provider where
  address : String
  key : String
  timeout : Value
  deriving Inhabited

inductive ProviderError where
  | noKey
  deriving DecidableEq, Repr, Inhabited

def ProviderError.message : ProviderError → String
  | noKey => "Missing OPENAI_API_KEY environment variable"

namespace Provider

/-- A text that is not empty. -/
def given? : Option String → Option String
  | some "" => none
  | text? => text?

/-! ### Addresses -/

/-- The parts of an address. -/
structure AddressParts where
  scheme : List Char
  /-- What comes before the host, with its at sign. -/
  user : List Char
  host : List Char
  /-- The number after the host, with its colon. -/
  number : List Char
  /-- The path and what follows it. -/
  rest : List Char

def isSchemeChar (c : Char) : Bool :=
  Text.isAsciiLetter c || Text.isAsciiDigit c || c == '+' || c == '-' || c == '.'

/-- Splits an address that names a scheme and a host. -/
def AddressParts.of? (address : List Char) : Option AddressParts :=
  let scheme := address.takeWhile isSchemeChar
  match address.drop scheme.length with
  | ':' :: '/' :: '/' :: body =>
    let authority := body.takeWhile fun c => c != '/' && c != '?' && c != '#'
    let before := authority.reverse.takeWhile (· != '@')
    let server := before.reverse
    let host := if server.head? = some '[' then
        server.takeWhile (· != ']') ++ [']']
      else server.takeWhile (· != ':')
    some
      { scheme
        user := authority.take (authority.length - server.length)
        host
        number := server.drop host.length
        rest := body.drop authority.length }
  | _ => none

/-- The numbers that need not be named, by their schemes. -/
def usualNumbers : List (String × String) :=
  [("http", ":80"), ("https", ":443"), ("ws", ":80"), ("wss", ":443"), ("ftp", ":21")]

/-- The scheme and the host in lower case, and no number that need not be named. -/
def AddressParts.normal (p : AddressParts) : AddressParts :=
  let scheme := p.scheme.map Char.toLower
  let needless := usualNumbers.contains (String.ofList scheme, String.ofList p.number)
  { p with
    scheme
    host := p.host.map Char.toLower
    number := if needless ∨ p.number = [':'] then [] else p.number }

def AddressParts.text (p : AddressParts) : List Char :=
  p.scheme ++ "://".toList ++ p.user ++ p.host ++ p.number ++ p.rest

/-- A path with a slash at its end. The path of a bare host stays empty. -/
def withEndSlash (path : List Char) : List Char :=
  if path.isEmpty ∨ path.getLast? = some '/' then path else path ++ ['/']

/-- An address below which requests are made. -/
def base (address : String) : String :=
  match AddressParts.of? address.toList with
  | none => String.ofList (withEndSlash address.toList)
  | some p =>
    let p := p.normal
    String.ofList { p with rest := withEndSlash p.rest }.text

/-- Where completions are made unless another address is given. -/
def defaultAddress : String :=
  String.ofList (AddressParts.text
    { scheme := "https".toList
      user := []
      host := "api.openai.com".toList
      number := []
      rest := "/v1".toList })

/-! ### Opening -/

/-- Where the provider is reached. An address that is set counts even if it is empty. -/
def addressOf (s : Settings) (o : ProviderOptions) : String :=
  ((given? o.address?).or (s.get? "OPENAI_BASE_URL")).getD defaultAddress

/-- The provider that the options and the settings describe. -/
def ofSettings (s : Settings) (o : ProviderOptions) : Except ProviderError Provider :=
  match given? ((given? o.key?).or (s.get? "OPENAI_API_KEY")) with
  | none => .error .noKey
  | some key => .ok { address := base (addressOf s o), key, timeout := o.timeout }

/-- The completion among the choices of an answer: the text of the first, if it has any. -/
def completion : List (Option String) → String
  | [] => ""
  | first :: _ => first.getD ""

end Provider

end Stepwise
