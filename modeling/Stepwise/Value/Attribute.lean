import Stepwise.Value.Basic

/-!
Attributes: the names that a value answers to besides its items. Names that begin with an
underscore, and methods that would change a value, exist but may not be used.
-/

namespace Stepwise.Value

def namesIn (names : String) : List String := names.splitOn " "

/-- The reserved attributes that every value has. -/
def commonReserved : List String :=
  namesIn "__class__ __delattr__ __dir__ __doc__ __eq__ __format__ __ge__ __getattribute__ __getstate__ __gt__ __hash__ __init__ __init_subclass__ __le__ __lt__ __ne__ __new__ __reduce__ __reduce_ex__ __repr__ __setattr__ __sizeof__ __str__ __subclasshook__"

/-- The further reserved attributes of a kind of value. -/
def ownReserved : Value → List String
  | null => ["__bool__"]
  | bool _ | int _ =>
    namesIn "__abs__ __add__ __and__ __bool__ __ceil__ __divmod__ __float__ __floor__ __floordiv__ __getnewargs__ __index__ __int__ __invert__ __lshift__ __mod__ __mul__ __neg__ __or__ __pos__ __pow__ __radd__ __rand__ __rdivmod__ __rfloordiv__ __rlshift__ __rmod__ __rmul__ __ror__ __round__ __rpow__ __rrshift__ __rshift__ __rsub__ __rtruediv__ __rxor__ __sub__ __truediv__ __trunc__ __xor__"
  | float _ =>
    namesIn "__abs__ __add__ __bool__ __ceil__ __divmod__ __float__ __floor__ __floordiv__ __getformat__ __getnewargs__ __int__ __mod__ __mul__ __neg__ __pos__ __pow__ __radd__ __rdivmod__ __rfloordiv__ __rmod__ __rmul__ __round__ __rpow__ __rsub__ __rtruediv__ __sub__ __truediv__ __trunc__"
  | text _ => namesIn "__add__ __contains__ __getitem__ __getnewargs__ __iter__ __len__ __mod__ __mul__ __rmod__ __rmul__"
  | markup _ =>
    namesIn "__add__ __contains__ __getitem__ __getnewargs__ __iter__ __len__ __mod__ __mul__ __rmod__ __rmul__ __radd__ __html__ __html_format__ __dict__ __module__ __slots__"
  | list _ =>
    namesIn "__add__ __class_getitem__ __contains__ __delitem__ __getitem__ __iadd__ __imul__ __iter__ __len__ __mul__ __reversed__ __rmul__ __setitem__"
  | tuple _ => namesIn "__add__ __class_getitem__ __contains__ __getitem__ __getnewargs__ __iter__ __len__ __mul__ __rmul__"
  | group _ _ =>
    namesIn "__add__ __class_getitem__ __contains__ __getitem__ __getnewargs__ __iter__ __len__ __mul__ __rmul__ __module__ __slots__ __match_args__ __annotations__ __orig_bases__ _asdict _field_defaults _fields _make _replace"
  | dict _ | constructor _ =>
    namesIn "__class_getitem__ __contains__ __delitem__ __getitem__ __ior__ __iter__ __len__ __or__ __reversed__ __ror__ __setitem__"
  | stream _ _ _ =>
    namesIn "__del__ __iter__ __name__ __next__ __qualname__"
  | range _ _ _ => namesIn "__bool__ __contains__ __getitem__ __iter__ __len__ __reversed__"
  | view _ _ =>
    namesIn "__and__ __contains__ __iter__ __len__ __or__ __rand__ __reversed__ __ror__ __rsub__ __rxor__ __sub__ __xor__"
  | bytes _ =>
    namesIn "__add__ __bytes__ __contains__ __getitem__ __getnewargs__ __iter__ __len__ __mod__ __mul__ __rmod__ __rmul__"
  | method _ _ => namesIn "__call__ __module__ __name__ __qualname__ __self__ __text_signature__"
  | formatter _ _ | routine _ =>
    namesIn "__annotations__ __builtins__ __call__ __closure__ __code__ __defaults__ __dict__ __get__ __globals__ __kwdefaults__ __module__ __name__ __qualname__"
  | _ => []

def textMethods : List String :=
  namesIn "capitalize casefold center count encode endswith expandtabs find format format_map index isalnum isalpha isascii isdecimal isdigit isidentifier islower isnumeric isprintable isspace istitle isupper join ljust lower lstrip maketrans partition removeprefix removesuffix replace rfind rindex rjust rpartition rsplit rstrip split splitlines startswith strip swapcase title translate upper zfill"

/-- The methods of a kind of value. -/
def methodNames : Value → List String
  | bool _ | int _ => namesIn "as_integer_ratio bit_count bit_length conjugate from_bytes to_bytes"
  | float _ => namesIn "as_integer_ratio conjugate fromhex hex is_integer"
  | text _ => textMethods
  | markup _ => textMethods ++ namesIn "escape striptags unescape"
  | list _ => namesIn "append clear copy count extend index insert pop remove reverse sort"
  | tuple _ | group _ _ | range _ _ _ => namesIn "count index"
  | dict _ => namesIn "clear copy fromkeys get items keys pop popitem setdefault update values"
  | constructor "dict" => namesIn "clear copy fromkeys get items keys pop popitem setdefault update values"
  | stream "generator" _ _ => namesIn "close send throw"
  | view .keys _ | view .items _ => ["isdisjoint"]
  | bytes _ =>
    namesIn "capitalize center count decode endswith expandtabs find fromhex hex index isalnum isalpha isascii isdigit islower isspace istitle isupper join ljust lower lstrip maketrans partition removeprefix removesuffix replace rfind rindex rjust rpartition rsplit rstrip split splitlines startswith strip swapcase title translate upper zfill"
  | _ => []

/-- Attributes that hold a value. -/
def heldAttribute? : Value → String → Option Value
  | bool b, name => ofInt (if b then 1 else 0) name
  | int n, name => ofInt n name
  | float x, "real" => some (float x)
  | float _, "imag" => some (float Binary64.zero)
  | range a _ _, "start" => some (int a)
  | range _ b _, "stop" => some (int b)
  | range _ _ c, "step" => some (int c)
  | group key _, "grouper" => some key
  | group _ members, "list" => some (list members)
  | view _ _, "mapping" => some (foreign "mappingproxy")
  | stream "generator" _ _, "gi_running" => some (bool false)
  | stream "generator" _ _, "gi_suspended" => some (bool false)
  | stream "generator" _ _, "gi_yieldfrom" => some null
  | constructor "range", "count" => some (foreign "method_descriptor")
  | constructor "range", "index" => some (foreign "method_descriptor")
  | constructor "range", "start" => some (foreign "member_descriptor")
  | constructor "range", "stop" => some (foreign "member_descriptor")
  | constructor "range", "step" => some (foreign "member_descriptor")
  | _, _ => none
where
  ofInt (n : Int) (name : String) : Option Value :=
    if name == "real" || name == "numerator" then some (int n)
    else if name == "imag" then some (int 0)
    else if name == "denominator" then some (int 1)
    else none

/-- An attribute, whether it may be used or not. -/
def attribute? (v : Value) (name : String) : Option Value :=
  match v.heldAttribute? name with
  | some held => some held
  | none =>
    if v.methodNames.contains name then
      match v with
      | constructor _ =>
        some (if name == "fromkeys" then method (dict []) name else foreign "method_descriptor")
      | _ =>
        if v.isText && (name == "format" || name == "format_map") then
          some (formatter v (name == "format_map"))
        else some (method v name)
    else if (v.ownReserved.contains name || commonReserved.contains name) then
      some (foreign "method-wrapper")
    else
      match v, name with
      | stream "generator" _ _, "gi_frame" => some (foreign "frame")
      | stream "generator" _ _, "gi_code" => some (foreign "code")
      | constructor _, "mro" => some (method v "mro")
      | _, _ => none

/-- May a script use the attribute? Not the reserved ones, and none that changes a value. -/
def attributeAllowed (v : Value) (name : String) : Bool :=
  !name.startsWith "_" &&
    match v with
    | list _ => !(namesIn "append clear extend insert pop remove reverse sort").contains name
    | dict _ => !(namesIn "clear pop popitem setdefault update").contains name
    | stream "generator" _ _ => name != "gi_frame" && name != "gi_code"
    | constructor _ => name != "mro"
    | _ => true

/-- How messages name the owner of an attribute. -/
def ownerText : Value → String
  | null => "None"
  | markup _ => "markupsafe.Markup object"
  | group _ _ => "jinja2.filters._GroupTuple object"
  | foreign "TemplateReference" => "jinja2.runtime.TemplateReference object"
  | foreign "Cycler" => "jinja2.utils.Cycler object"
  | foreign "Joiner" => "jinja2.utils.Joiner object"
  | foreign "Namespace" => "jinja2.utils.Namespace object"
  | v => v.typeName ++ " object"

end Stepwise.Value
