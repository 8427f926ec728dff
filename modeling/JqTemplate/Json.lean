import JqTemplate.Decimal.Binary64

namespace JqTemplate

inductive Json where
  | null
  | bool (value : Bool)
  | number (value : Int)
  | float (value : Decimal.Binary64)
  | string (value : String)
  | array (items : List Json)
  | object (entries : List (String × Json))
  deriving Inhabited

namespace Json

def lookup? (key : String) : List (String × Json) → Option Json
  | [] => none
  | (k, v) :: rest => if k = key then some v else lookup? key rest

def field? (j : Json) (key : String) : Option Json :=
  match j with
  | .object entries => lookup? key entries
  | _ => none

def at? (j : Json) (keys : List String) : Option Json :=
  keys.foldl (fun found key => found.bind fun j => j.field? key) (some j)

def keys : Json → List String
  | .object entries => entries.map fun e => e.1
  | _ => []

def has (j : Json) (key : String) : Bool := (j.field? key).isSome

def string? : Json → Option String
  | .string s => some s
  | _ => none

def number? : Json → Option Int
  | .number n => some n
  | _ => none

def array? : Json → Option (List Json)
  | .array items => some items
  | _ => none

def optional (key : String) (value : Option Json) : List (String × Json) :=
  match value with
  | some j => [(key, j)]
  | none => []

end Json

end JqTemplate
