import RouteTemplate.Action
import RouteTemplate.Json.Fault
import RouteTemplate.Text.Quoted

namespace RouteTemplate.Json

inductive Shape where
  | string
  | boolean
  | unit
  | sequence
  | set
  | map
  | operands
  | options
  | routeSet
  | route
  | defaults
  deriving DecidableEq, Repr

def Shape.text : Shape → String
  | string => "a string"
  | boolean => "a boolean"
  | unit => "unit"
  | sequence => "a sequence"
  | set => "a set"
  | map => "a map"
  | operands => "tuple variant PathNode::Cat"
  | options => "struct CompileOptions"
  | routeSet => "struct RouteSet"
  | route => "struct Route"
  | defaults => "struct RouteDefaults"

inductive Found where
  | null
  | boolean (value : Bool)
  | integer (value : Int)
  | float (text : String)
  | string (value : String)
  | list
  | object
  deriving DecidableEq, Repr

inductive Body where
  | empty
  | single
  | pair
  deriving DecidableEq, Repr

inductive ReadError where
  | malformed (fault : Fault)
  | wrongType (found : Found) (wanted : Shape)
  | wrongLength (length : Nat) (wanted : Shape) (size : Nat)
  | unknownTag (name : String)
  | bareTag (wanted : Body)
  | repeatedField (name : String)
  | missingField (name : String)
  | badAction (fault : ActionFault)
  deriving DecidableEq, Repr

def Found.text : Found → String
  | null => "null"
  | boolean value => "boolean `" ++ toString value ++ "`"
  | integer value => "integer `" ++ toString value ++ "`"
  | float text => "floating point `" ++ text ++ "`"
  | string value => "string " ++ Text.quoted value
  | list => "sequence"
  | object => "map"

def Body.text : Body → String
  | empty => "unit variant"
  | single => "newtype variant"
  | pair => "tuple variant"

namespace ReadError

/-- What is wrong, without the line and the column where it was noticed. An error keeps no place, so
whoever shows the message in full has to find the place in the text (`CommandLine.Wording`). -/
def message : ReadError → String
  | malformed fault => fault.message
  | wrongType found wanted => "invalid type: " ++ found.text ++ ", expected " ++ wanted.text
  | wrongLength length wanted size =>
    "invalid length " ++ toString length ++ ", expected " ++ wanted.text ++ " with " ++
      toString size ++ " elements"
  | unknownTag name =>
    "unknown variant `" ++ name ++ "`, expected one of `literal`, `slash`, `dot`, `symbol`, " ++
      "`star`, `cat`, `or`, `group`"
  | bareTag wanted => "invalid type: " ++ Body.empty.text ++ ", expected " ++ wanted.text
  | repeatedField name => "duplicate field `" ++ name ++ "`"
  | missingField name => "missing field `" ++ name ++ "`"
  | badAction fault => fault.message

end ReadError

end RouteTemplate.Json
