import JqTemplate.Files.System

/-! Files and folders without links, all of which may be read. A place is given by the names on the
way from the root; the root is a folder that always exists. -/
namespace JqTemplate.Files

inductive Entry where
  | file (octets : List Nat)
  | folder
  deriving DecidableEq, Repr

def Entry.kind : Entry → Kind
  | .file _ => .file
  | .folder => .folder

def Entry.octets : Entry → Except Obstacle (List Nat)
  | .file octets => .ok octets
  | .folder => .error .isFolder

structure Tree where
  entries : List (Place × Entry)
  deriving DecidableEq, Repr

def longestName : Nat := 255

namespace Tree

def empty : Tree := ⟨[]⟩

def entry? (t : Tree) (place : Place) : Option Entry :=
  if place = [] then some .folder else t.entries.lookup place

def isFolder (t : Tree) (place : Place) : Bool := t.entry? place = some .folder

/-- Follows names from a place, and gives the place to which they lead and what is there. Each
step, upward ones too, needs a folder to start from. -/
def walk (t : Tree) : Place → List String → Except Obstacle (Place × Entry)
  | place, [] =>
    match t.entry? place with
    | some entry => .ok (place, entry)
    | none => .error .missing
  | place, name :: rest =>
    match t.entry? place with
    | none => .error .missing
    | some (.file _) => .error .notAFolder
    | some .folder =>
      if longestName < name.utf8ByteSize then .error .nameTooLong
      else if name = Path.upward then walk t place.dropLast rest
      else walk t (place ++ [name]) rest

def find (t : Tree) (folder : Place) (p : Path) : Except Obstacle (Place × Entry) :=
  if Path.isTooLong p.text then .error .nameTooLong
  else t.walk (if p.root = .relative then folder else []) p.parts

/-- What a written path leads to: one that ends in a slash or a dot never leads to a file, and
one that is too long leads nowhere, however short it could be written. -/
def atText? (t : Tree) (folder : Place) (s : String) : Option Entry :=
  if s.isEmpty || Path.isTooLong s then none
  else
    match t.find folder (Path.ofString s) with
    | .ok (_, .file octets) => if Path.namesFolder s then none else some (.file octets)
    | .ok (_, .folder) => some .folder
    | .error _ => none

def children (t : Tree) (place : Place) : List (String × Entry) :=
  t.entries.filterMap fun (other, entry) =>
    if other.dropLast = place then other.getLast?.map fun name => (name, entry) else none

def erase (t : Tree) (place : Place) : Tree := ⟨t.entries.filter fun e => e.1 ≠ place⟩

/-- A folder goes with everything in it. -/
def remove (t : Tree) (place : Place) : Tree :=
  ⟨t.entries.filter fun e => !place.isPrefixOf e.1⟩

def set (t : Tree) (place : Place) (entry : Entry) : Tree := ⟨(place, entry) :: (t.erase place).entries⟩

def makeFolders (t : Tree) (place : Place) : Tree :=
  (List.range (place.length + 1)).foldl
    (fun t n => if (t.entry? (place.take n)).isSome then t else t.set (place.take n) .folder) t

def write (t : Tree) (place : Place) (entry : Entry) : Tree :=
  (t.makeFolders place.dropLast).set place entry

def listed (name : String) (entry : Entry) : Listed :=
  let isFolder := decide (entry = .folder)
  ⟨name, .ok isFolder, .ok isFolder⟩

/-- What keeps a file from being written. One that is missing is made, its folder is not. -/
def writeObstacle? (t : Tree) (folder : Place) (p : Path) : Option Obstacle :=
  match t.find folder p with
  | .ok (_, entry) => if entry = .folder then some .isFolder else none
  | .error obstacle =>
    if obstacle.isMissing then
      match t.find folder p.parent with
      | .ok (_, entry) => if entry = .folder then none else some .notAFolder
      | .error obstacle => some obstacle
    else some obstacle

def read (t : Tree) (folder : Place) (p : Path) : Except Obstacle (List Nat) :=
  match t.find folder p with
  | .ok (_, entry) => entry.octets
  | .error obstacle => .error obstacle

def system (t : Tree) (folder : Place) : System where
  folder := folder
  depth := 1000
  stat p := (t.find folder p).map fun found => found.2.kind
  link? _ := none
  list p :=
    match t.find folder p with
    | .ok (place, .folder) => .ok ((t.children place).map fun (name, entry) => listed name entry)
    | .ok (_, .file _) => .error .notAFolder
    | .error obstacle => .error obstacle
  read p := t.read folder p
  append? p := t.writeObstacle? folder p
  opens := by
    intro p kind obstacle there closed
    unfold read at closed
    cases found : t.find folder p with
    | error cause => simp [found, Except.map] at there
    | ok result =>
      obtain ⟨place, entry⟩ := result
      rw [found] at closed
      cases entry with
      | file octets => cases closed
      | folder =>
        cases closed
        rfl

end Tree

end JqTemplate.Files
