import JqTemplate.Decimal.Shortest
import JqTemplate.Text.Quoted

namespace JqTemplate.Toml

abbrev Key := List Char

structure Date where
  year : Nat
  month : Nat
  day : Nat
  deriving DecidableEq, Repr

structure Time where
  hour : Nat
  minute : Nat
  second : Nat
  microsecond : Nat
  deriving DecidableEq, Repr

/-- The offset of a zone from universal time in minutes. -/
abbrev Zone := Int

inductive Value where
  | string (text : List Char)
  | integer (value : Int)
  | float (value : Decimal.Binary64)
  | boolean (value : Bool)
  | date (date : Date)
  | dateTime (date : Date) (time : Time) (zone : Option Zone)
  | time (time : Time)
  | array (items : List Value)
  | table (entries : List (Key × Value))

abbrev Table := List (Key × Value)

namespace Table

def get? (t : Table) (key : Key) : Option Value := t.lookup key

def has (t : Table) (key : Key) : Bool := t.any fun e => e.1 = key

def set (t : Table) (key : Key) (value : Value) : Table :=
  if t.has key then t.map fun e => if e.1 = key then (key, value) else e
  else t ++ [(key, value)]

end Table

def isLeapYear (year : Nat) : Bool := year % 4 = 0 && (year % 100 ≠ 0 || year % 400 = 0)

def daysInMonth (year month : Nat) : Nat :=
  if month = 2 then if isLeapYear year then 29 else 28
  else if month ∈ [4, 6, 9, 11] then 30
  else 31

def Date.isValid (d : Date) : Bool := 1 ≤ d.year && d.day ≤ daysInMonth d.year d.month

/-- The most digits that an integer in base ten may have, to be read or to be shown. -/
def digitLimit : Nat := 4300

def tooManyDigitsText (detail : String) : String :=
  s!"Exceeds the limit ({digitLimit} digits) for integer string conversion" ++ detail ++
    "; use sys.set_int_max_str_digits() to increase the limit"

def numberText (n : Nat) : List Char := Nat.toDigits 10 n

def integerText (n : Int) : List Char :=
  if n < 0 then '-' :: numberText n.natAbs else numberText n.natAbs

def commaSeparated : List (List Char) → List Char
  | [] => []
  | [x] => x
  | x :: rest => x ++ ',' :: ' ' :: commaSeparated rest

def call (name : String) (arguments : List (List Char)) : List Char :=
  name.toList ++ '(' :: commaSeparated arguments ++ [')']

def Date.numbers (d : Date) : List (List Char) := [d.year, d.month, d.day].map numberText

/-- Seconds are left out when nothing but zeros follows the minutes, microseconds when they
are zero. -/
def Time.numbers (t : Time) : List (List Char) :=
  let shown :=
    if t.microsecond ≠ 0 then [t.hour, t.minute, t.second, t.microsecond]
    else if t.second ≠ 0 then [t.hour, t.minute, t.second]
    else [t.hour, t.minute]
  shown.map numberText

/-- A zone west of universal time is shown as a day back and seconds forward. -/
def zoneText (z : Zone) : List Char :=
  if z = 0 then "datetime.timezone.utc".toList
  else
    let seconds (n : Int) := "seconds=".toList ++ integerText n
    let delta :=
      if z < 0 then call "datetime.timedelta" ["days=-1".toList, seconds (86400 + 60 * z)]
      else call "datetime.timedelta" [seconds (60 * z)]
    call "datetime.timezone" [delta]

mutual

def Value.show : Value → List Char
  | .string text => Text.quoted text
  | .integer n => integerText n
  | .float f => f.text
  | .boolean b => if b then "True".toList else "False".toList
  | .date d => call "datetime.date" d.numbers
  | .dateTime d t zone =>
    let zoneArgument := match zone with
      | some z => ["tzinfo=".toList ++ zoneText z]
      | none => []
    call "datetime.datetime" (d.numbers ++ t.numbers ++ zoneArgument)
  | .time t => call "datetime.time" t.numbers
  | .array items => '[' :: commaSeparated (showItems items) ++ [']']
  | .table entries => '{' :: commaSeparated (showEntries entries) ++ ['}']

def showItems : List Value → List (List Char)
  | [] => []
  | v :: rest => v.show :: showItems rest

def showEntries : List (Key × Value) → List (List Char)
  | [] => []
  | (key, v) :: rest => (Text.quoted key ++ ':' :: ' ' :: v.show) :: showEntries rest

end

mutual

def Value.isShowable : Value → Bool
  | .integer n => n.natAbs < Nat.pow 10 digitLimit
  | .array items => areShowable items
  | .table entries => areShowableEntries entries
  | _ => true

def areShowable : List Value → Bool
  | [] => true
  | v :: rest => v.isShowable && areShowable rest

def areShowableEntries : List (Key × Value) → Bool
  | [] => true
  | (_, v) :: rest => v.isShowable && areShowableEntries rest

end

def Value.typeName : Value → String
  | .string _ => "str"
  | .integer _ => "int"
  | .float _ => "float"
  | .boolean _ => "bool"
  | .date _ => "datetime.date"
  | .dateTime _ _ _ => "datetime.datetime"
  | .time _ => "datetime.time"
  | .array _ => "list"
  | .table _ => "dict"

def Value.isContainer : Value → Bool
  | .array _ | .table _ => true
  | _ => false

end JqTemplate.Toml
