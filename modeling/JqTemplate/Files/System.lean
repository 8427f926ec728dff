import JqTemplate.Files.Access
import JqTemplate.Files.Path

/-! What the operating system answers when it is asked about paths, and the questions that are put
to it. Permissions, links and faults of any kind show in the answers only. -/
namespace JqTemplate.Files

inductive Kind where
  | file
  | folder
  | other
  deriving DecidableEq, Repr

/-- An entry of a folder: whether it is a folder itself, and whether it leads to one. -/
structure Listed where
  name : String
  isFolder : Except Obstacle Bool
  leadsToFolder : Except Obstacle Bool

/-- The answers of a system, whose files stay as they are. Links are followed except by `link?`,
which tells where a link points. `depth` is how deeply a search may nest. What is there is not
missing when it is opened. -/
structure System where
  folder : Place
  depth : Nat
  stat : Path → Except Obstacle Kind
  link? : Path → Option String
  list : Path → Except Obstacle (List Listed)
  read : Path → Except Obstacle (List Nat)
  append? : Path → Option Obstacle
  opens : ∀ p kind obstacle, stat p = .ok kind → read p = .error obstacle →
    obstacle.isMissing = false

namespace System

variable (sys : System)

/-- Whether a path leads to something of a kind. An obstacle that means that there is nothing is an
answer. -/
def leadsTo (isWanted : Kind → Bool) (p : Path) : Except AccessFault Bool :=
  if p.hasNull then .ok false
  else
    match sys.stat p with
    | .ok kind => .ok (isWanted kind)
    | .error obstacle => if obstacle.meansNothing then .ok false else .error ⟨obstacle, p.text⟩

def isThere (p : Path) : Except AccessFault Bool := sys.leadsTo (fun _ => true) p

def isFile (p : Path) : Except AccessFault Bool := sys.leadsTo (fun kind => kind = .file) p

def isFolder (p : Path) : Except AccessFault Bool := sys.leadsTo (fun kind => kind = .folder) p

/-- A system in which one path may not be read. -/
def closing (q : Path) : System where
  folder := sys.folder
  depth := sys.depth
  stat := sys.stat
  link? := sys.link?
  list := sys.list
  read p := if p = q then .error .denied else sys.read p
  append? := sys.append?
  opens := by
    intro p kind obstacle there closed
    split at closed
    · cases closed
      rfl
    · exact sys.opens p kind obstacle there closed

end System

inductive ResolveFault where
  | nullInPath
  | linkLoop (path : String)
  | tooDeep
  deriving DecidableEq, Repr

def tooDeepText : String := "maximum recursion depth exceeded"

def ResolveFault.message : ResolveFault → String
  | .nullInPath => "embedded null byte"
  | .linkLoop path => "Symlink loop from " ++ Text.quotedString path
  | .tooDeep => tooDeepText

/-- The path to which a way along names has led so far. A way that came back to a link which it was
just following is at its end, with the names that are left behind the path as they are. -/
structure Way where
  path : Path
  isWhole : Bool

/-- The links that were met, with the paths that they stand for; while a link is followed, there is
none for it. -/
abbrev Met := List (Path × Option Path)

namespace System

/-- Follows names from a path. Upward steps are taken by the letter, since no link is left before
them. -/
def alongNames (sys : System)
    (along : Met → Path → String → Except ResolveFault (Met × Way)) :
    Met → Path → List String → Except ResolveFault (Met × Way)
  | met, path, [] => .ok (met, ⟨path, true⟩)
  | met, path, name :: rest =>
    if name = "" ∨ name = "." then alongNames sys along met path rest
    else if name = Path.upward then alongNames sys along met path.up rest
    else if name.toList.contains '\x00' then .error .nullInPath
    else
      let next := path.child name
      let left := String.intercalate "/" rest
      match sys.link? next, met.lookup next with
      | none, _ => alongNames sys along met next rest
      | some _, some (some known) => alongNames sys along met known rest
      | some _, some none => .ok (met, ⟨next.join left, false⟩)
      | some target, none =>
        match along ((next, none) :: met) path target with
        | .error fault => .error fault
        | .ok (met, ⟨path, true⟩) => alongNames sys along ((next, some path) :: met) path rest
        | .ok (met, ⟨path, false⟩) => .ok (met, ⟨path.join left, false⟩)

/-- Follows a written path. A link on it leads one level deeper. -/
def along (sys : System) : (depth : Nat) → Met → Path → String → Except ResolveFault (Met × Way)
  | 0, _, _, _ => .error .tooDeep
  | depth + 1, met, path, text =>
    let start : Path := if Path.rootOf text.toList = .relative then path else ⟨.single, []⟩
    alongNames sys (along sys depth) met start ((Text.splitOn '/' text.toList).map String.ofList)

/-- The absolute path without links that a path stands for. Parts of it need not exist. -/
def resolve (sys : System) (p : Path) : Except ResolveFault Path :=
  match along sys sys.depth [] ⟨.relative, []⟩ p.text with
  | .error fault => .error fault
  | .ok (_, way) =>
    let whole := way.path.absolute sys.folder
    if whole.hasNull then .error .nullInPath
    else
      match sys.stat whole with
      | .ok _ => .ok whole
      | .error obstacle => if obstacle.isLinkLoop then .error (.linkLoop whole.text) else .ok whole

end System

end JqTemplate.Files
