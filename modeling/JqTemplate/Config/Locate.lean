import JqTemplate.Config

/-! Where the configuration of a file or folder stands: in the nearest folder, from the
start upward, that has an entry of the right name. -/
namespace JqTemplate.Config

open Files (System Place Path)

/-- The places to look at, nearest first: the folder itself and every one around it. -/
def ancestors (place : Place) : List Place :=
  ((List.range (place.length + 1)).map fun n => place.take n).reverse

/-- The folder from which the search starts: for a regular file, the one that holds it. -/
def startFolder? (sys : System) (start : Path) : Except Fault Path :=
  match sys.resolve start with
  | .error fault => .error (.unresolved fault)
  | .ok p =>
    match sys.isFile p with
    | .error fault => .error (.access fault)
    | .ok true => .ok p.parent
    | .ok false => .ok p

/-- The file in the first of some folders that has it. -/
def nearest? (sys : System) : List Path → Except Fault Path
  | [] => .error .notFound
  | folder :: rest =>
    match sys.isThere (folder.child fileName) with
    | .error fault => .error (.access fault)
    | .ok true => .ok (folder.child fileName)
    | .ok false => nearest? sys rest

def locate? (sys : System) (start : Path) : Except Fault Path :=
  match startFolder? sys start with
  | .error fault => .error fault
  | .ok first => nearest? sys ((ancestors first.parts).map fun place => ⟨first.root, place⟩)

/-- The configuration that holds at a path. Where there is no file, all defaults hold. -/
def for? (sys : System) (start : Path) : Except Fault Config :=
  match (locate? sys start).bind fun p => load p.text (sys.read p) with
  | .ok config => .ok config
  | .error fault => if fault.isMissing then .ok {} else .error fault

end JqTemplate.Config
