import JqTemplate.Command.Fault

namespace JqTemplate.Command

structure Given where
  option : Opt
  value : String
  deriving DecidableEq, Repr

structure Arguments where
  given : List Given
  operands : List String
  deriving DecidableEq, Repr

def Arguments.addGiven (option : Opt) (value : String) (a : Arguments) : Arguments :=
  { a with given := ⟨option, value⟩ :: a.given }

def Arguments.addOperand (operand : String) (a : Arguments) : Arguments :=
  { a with operands := operand :: a.operands }

/-- A lone hyphen is an operand. -/
def looksLikeOption (arg : String) : Bool :=
  match arg.toList with
  | '-' :: _ :: _ => true
  | _ => false

def splitValue (arg : List Char) : String × Option String :=
  let name := String.ofList (arg.takeWhile fun c => c ≠ '=')
  match arg.dropWhile fun c => c ≠ '=' with
  | _ :: value => (name, some (String.ofList value))
  | [] => (name, none)

/-- With a single hyphen the first letter alone counts; no option is named so. -/
def unknownOption (options : List Opt) (arg : List Char) (name : String) : Fault :=
  match arg with
  | '-' :: '-' :: _ => .noSuchOption name (similarNames (options.map Opt.name) name)
  | _ => .noSuchOption (String.ofList (arg.take 2)) []

def readOption (options : List Opt) (arg : String) : Except Fault (Opt × Option String) :=
  let (name, value) := splitValue arg.toList
  match options.find? fun o => o.name = name with
  | none => .error (unknownOption options arg.toList name)
  | some option =>
    if value.isSome && !option.takesValue then .error (.unwantedValue option)
    else .ok (option, value)

/-- Two hyphens alone end the options. Where options and operands may not be mixed, the first
operand ends them too. An option takes the next argument for its value, whatever it looks
like. -/
def scan (options : List Opt) (mixed : Bool) : List String → Except Fault Arguments
  | [] => .ok ⟨[], []⟩
  | arg :: rest =>
    if arg = "--" then .ok ⟨[], rest⟩
    else if looksLikeOption arg then
      match readOption options arg with
      | .error fault => .error fault
      | .ok (option, some value) => (scan options mixed rest).map (Arguments.addGiven option value)
      | .ok (option, none) =>
        if option.takesValue then
          match rest with
          | [] => .error (.missingValue option)
          | value :: later => (scan options mixed later).map (Arguments.addGiven option value)
        else (scan options mixed rest).map (Arguments.addGiven option "")
    else if mixed then (scan options mixed rest).map (Arguments.addOperand arg)
    else .ok ⟨[], arg :: rest⟩

namespace Arguments

def immediate? (a : Arguments) : Option Opt :=
  (a.given.find? fun g => g.option.isImmediate).map Given.option

def has (a : Arguments) (option : Opt) : Bool := a.given.any fun g => g.option = option

/-- Of a repeated option the last value counts. -/
def value? (a : Arguments) (option : Opt) : Option String :=
  (a.given.reverse.find? fun g => g.option = option).map Given.value

def mentioned (a : Arguments) : List Opt := (a.given.map Given.option).eraseDups

end Arguments

end JqTemplate.Command
