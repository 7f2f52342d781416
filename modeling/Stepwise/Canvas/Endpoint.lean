import Stepwise.Value.Basic

/-!
Endpoints: what a node of a canvas may select, with the inputs that it takes and the outputs that it
gives.
-/

namespace Stepwise

/-- The shape of a parameter, for those who draw a canvas. -/
inductive ParamType where
  | text
  | number
  | list
  | object
  deriving DecidableEq, Repr, Inhabited

def ParamType.name : ParamType → String
  | text => "string"
  | number => "number"
  | list => "array"
  | object => "object"

structure Param where
  name : String
  type : ParamType
  required : Bool := false
  description : String := ""
  default? : Option Value := none
  deriving Inhabited

def Param.withDefault (p : Param) (v : Value) : Param := { p with default? := some v }

/-- Who answers an endpoint. -/
inductive EndpointCategory where
  | platform
  | completion
  | database
  | external
  deriving DecidableEq, Repr, Inhabited

def EndpointCategory.name : EndpointCategory → String
  | platform => "youtube"
  | completion => "openai"
  | database => "database"
  | external => "external"

structure Endpoint where
  id : String
  name : String
  description : String
  category : EndpointCategory
  method : String := "GET"
  inputs : List Param := []
  outputs : List Param := []
  deriving Inhabited

namespace Endpoint

/-- A parameter that has to be set. -/
def needed (name : String) (type : ParamType) (description : String) : Param :=
  { name, type, required := true, description }

def optional (name : String) (type : ParamType) (description : String) : Param :=
  { name, type, description }

def inputNames (e : Endpoint) : List String := e.inputs.map (·.name)

def outputNames (e : Endpoint) : List String := e.outputs.map (·.name)

end Endpoint

/-! ### As values -/

def Param.toValue (p : Param) : Value :=
  .ofFields [("name", .text p.name), ("type", .text p.type.name), ("required", .bool p.required),
    ("description", .text p.description), ("default", p.default?.getD .null)]

def Endpoint.toValue (e : Endpoint) : Value :=
  .ofFields [("id", .text e.id), ("name", .text e.name), ("description", .text e.description),
    ("category", .text e.category.name), ("method", .text e.method),
    ("inputs", .list (e.inputs.map Param.toValue)),
    ("outputs", .list (e.outputs.map Param.toValue))]

end Stepwise
