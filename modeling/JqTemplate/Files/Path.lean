import JqTemplate.Text.Split

/-! Paths of files. A path keeps its parts without empty ones and single dots; two dots
stay, since only the files themselves can tell what they mean. -/
namespace JqTemplate.Files

abbrev Place := List String

/-- How a path begins. Exactly two slashes are a root of their own. -/
inductive Root where
  | relative
  | single
  | double
  deriving DecidableEq, Repr

def Root.text : Root → String
  | .relative => ""
  | .single => "/"
  | .double => "//"

structure Path where
  root : Root
  parts : List String
  deriving DecidableEq, Repr

namespace Path

def upward : String := ".."

def rootOf (text : List Char) : Root :=
  match (text.takeWhile fun c => c = '/').length with
  | 0 => .relative
  | 2 => .double
  | _ => .single

def ofString (s : String) : Path :=
  let parts := (Text.splitOn '/' s.toList).map String.ofList
  ⟨rootOf s.toList, parts.filter fun part => part ≠ "" ∧ part ≠ "."⟩

def longest : Nat := 4095

def isTooLong (s : String) : Bool := longest < s.utf8ByteSize

def namesFolder (s : String) : Bool :=
  let last := (Text.splitOn '/' s.toList).getLastD []
  last.isEmpty || last = ['.']

def here : Path := ⟨.relative, []⟩

def text (p : Path) : String :=
  if p.root = .relative ∧ p.parts.isEmpty then "."
  else p.root.text ++ String.intercalate "/" p.parts

/-- The system takes no such path. -/
def hasNull (p : Path) : Bool := p.parts.any fun part => part.toList.contains '\x00'

def child (p : Path) (name : String) : Path := { p with parts := p.parts ++ [name] }

def parent (p : Path) : Path := { p with parts := p.parts.dropLast }

/-- The parts without upward steps, each of which takes back the part before it. -/
def collapse : (done : List String) → List String → List String
  | done, [] => done
  | done, part :: rest =>
    if part = upward then collapse done.dropLast rest else collapse (done ++ [part]) rest

def absolute (folder : Place) (p : Path) : Path :=
  ⟨if p.root = .double then .double else .single,
   collapse (if p.root = .relative then folder else []) p.parts⟩

/-- One step upward. A relative path may begin with such steps. -/
def up (p : Path) : Path :=
  match p.parts.getLast? with
  | some last => if last = upward then p.child upward else p.parent
  | none => if p.root = .relative then p.child upward else p

def join (p : Path) (text : String) : Path :=
  let q := ofString text
  if q.root = .relative then { p with parts := p.parts ++ q.parts } else q

def before (p q : Path) : Bool := decide (p.root.text :: p.parts < q.root.text :: q.parts)

end Path

end JqTemplate.Files
