import JqTemplate.Editor.Limits
import JqTemplate.Json.Lenient
import JqTemplate.Text.Split

/-! The shapes that the values in a message must have. A shape accepts whatever can be taken
for what it asks: a number for a text, a row of digits for a number. -/
namespace JqTemplate.Server

inductive Presence where
  | required
  | optional
  deriving DecidableEq, Repr

inductive Exemption where
  | null
  | text
  | scalar
  deriving DecidableEq, Repr

/-- A record may have entries beyond its fields. `either` has two shapes, one for objects with
a key and one for the rest. `tagged` finds the shape by the word under a key; without the key
the last shape holds. `items` judges arrays item by item and leaves the rest to its second
shape. -/
inductive Shape where
  | anything
  | nothing
  | whole (bounds : Editor.Bounds)
  | offset
  | real
  | grade (low high : Int)
  | word (words : List String)
  | list (item : Shape)
  | table (value : Shape)
  | pair (first second : Shape)
  | record (fields : List (String × Presence × Shape))
  | either (key : String) (withKey without : Shape)
  | tagged (key : String) (cases : List (String × Shape)) (untagged : Shape)
  | items (item rest : Shape)
  | except (exemption : Exemption) (shape : Shape)

/-- An object with the mark of a message is taken for a message wherever it stands. It counts
as a value, but nothing can be looked for in it. -/
def isSealed (j : Json) : Bool := j.has "jsonrpc"

def isNull : Json → Bool
  | .null => true
  | _ => false

def Exemption.covers : Exemption → Json → Bool
  | .null, j => isNull j
  | .text, j => j.string?.isSome
  | .scalar, .bool _ | .scalar, .number _ | .scalar, .float _ | .scalar, .string _ => true
  | .scalar, _ => false

/-- A number of a closed list of grades. Digits in a string do not count here. -/
def gradeOf? : Json → Option Int
  | .number n => some n
  | .bool b => some (if b then 1 else 0)
  | .float f => if f.isWhole then f.truncated? else none
  | _ => none

/-- Whether a key is found in a value. Only containers and strings can be searched. -/
def seemsToHold (key : String) (j : Json) : Option Bool :=
  if isSealed j then none
  else
    match j with
    | .array items => some (items.any fun j => j.string? = some key)
    | .string s => some (Text.occursIn key.toList s.toList)
    | .object entries => some (entries.any fun e => e.1 = key)
    | _ => none

def valueAt? (key : String) (j : Json) : Option Json :=
  if isSealed j then none else j.field? key

def listed? (j : Json) : Option (List Json) := if isSealed j then none else j.elements?

def tabled? (j : Json) : Option (List Json) :=
  match j with
  | .object entries => if isSealed j then none else some (entries.map fun e => e.2)
  | _ => none

mutual

def Shape.fits : Shape → Json → Bool
  | .anything, _ => true
  | .nothing, _ => false
  | .whole bounds, j => j.asWhole?.any bounds.holds
  | .offset, j => j.asWhole?.isSome
  | .real, j => j.isReal
  | .grade low high, j => (gradeOf? j).any fun n => low ≤ n && n ≤ high
  | .word words, j => j.string?.any words.contains
  | .list item, j => (listed? j).any fun items => items.all fun i => item.fits i
  | .table value, j => (tabled? j).any fun values => values.all fun v => value.fits v
  | .pair first second, j =>
    match j with
    | .array (a :: b :: _) => first.fits a && second.fits b
    | _ => false
  | .record fields, j => fieldsFit fields j
  | .either key withKey without, j =>
    if (valueAt? key j).isSome then withKey.fits j else without.fits j
  | .tagged key cases untagged, j =>
    match valueAt? key j with
    | some tag => tag.string?.any fun word => caseFits cases word j
    | none => untagged.fits j
  | .items item rest, j =>
    match j with
    | .array items => items.all fun i => item.fits i
    | _ => rest.fits j
  | .except exemption shape, j => exemption.covers j || shape.fits j

/-- Every field is judged. One that may be left out is searched for first, and the search
fails in values that hold nothing. -/
def fieldsFit : List (String × Presence × Shape) → Json → Bool
  | [], _ => true
  | (key, .required, shape) :: rest, j =>
    (valueAt? key j).any (fun v => shape.fits v) && fieldsFit rest j
  | (key, .optional, shape) :: rest, j =>
    (match seemsToHold key j with
      | none => false
      | some false => true
      | some true => (valueAt? key j).any fun v => isNull v || shape.fits v) && fieldsFit rest j

/-- The first case of a word holds; a word without a case fits nothing. -/
def caseFits : List (String × Shape) → String → Json → Bool
  | [], _, _ => false
  | (word, shape) :: rest, found, j =>
    if word = found then shape.fits j else caseFits rest found j

end

abbrev Field := String × Presence × Shape

def required (key : String) (shape : Shape) : Field := (key, .required, shape)

def optional (key : String) (shape : Shape) : Field := (key, .optional, shape)

namespace Shape

def count : Shape := .whole Editor.counts

def integer : Shape := .whole Editor.integers

/-- Any value but a container: lists of words and grades that clients may extend. -/
def openWord : Shape := .except .null (.except .scalar .nothing)

def naming (keys : List String) : Shape := .record (keys.map fun key => required key .anything)

def mentioning (keys : List String) : Shape :=
  .record (keys.map fun key => optional key .anything)

def holding (key : String) (shape : Shape) : Shape := .record [required key shape]

end Shape

end JqTemplate.Server
