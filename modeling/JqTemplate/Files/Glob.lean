import JqTemplate.Files.System

/-! Name patterns. A star stands for any run of characters, a question mark for one, and
brackets for one of a set. A pattern with several parts matches a path part by part, and
two stars as a part match any number of folders. -/
namespace JqTemplate.Files

inductive Item where
  | star
  | any
  | literal (c : Char)
  | oneOf (negated : Bool) (ranges : List (Char × Char))
  deriving DecidableEq, Repr

def hyphenFrom (start : Nat) (text : List Char) : Option Nat :=
  ((text.drop start).findIdx? fun c => c = '-').map fun i => i + start

/-- The pieces of a set between the hyphens that form ranges. A hyphen that comes directly
after such a one, or first or last, stands for itself. -/
def rangePieces : (steps start : Nat) → List Char → List (List Char)
  | 0, _, text => [text]
  | steps + 1, start, text =>
    match hyphenFrom start text with
    | none => [text]
    | some k =>
      let rest := text.drop (k + 1)
      if rest.isEmpty then [text.take k ++ ['-']]
      else text.take k :: rangePieces steps 2 rest

/-- Two neighbouring pieces whose range is empty lose its ends and become one piece. -/
def joinEmptyRange (piece : List Char) (later : List (List Char)) : List (List Char) :=
  match later with
  | [] => [piece]
  | next :: rest =>
    match piece.getLast?, next.head? with
    | some low, some high =>
      if high < low then (piece.dropLast ++ next.tail) :: rest else piece :: later
    | _, _ => piece :: later

/-- The characters of the pieces, and the ranges from the end of each to the next. A hyphen
with nothing before it stands for itself. -/
def pieceRanges : List (List Char) → List (Char × Char)
  | [] => []
  | piece :: later =>
    let singles := piece.map fun c => (c, c)
    let range := match piece.getLast?, later.head?.bind List.head? with
      | some low, some high => [(low, high)]
      | none, some _ => [('-', '-')]
      | _, none => []
    singles ++ range ++ pieceRanges later

def setPieces (text : List Char) : List (List Char) :=
  let start := if text.head? = some '!' then 2 else 1
  (rangePieces (text.length + 1) start text).foldr joinEmptyRange []

/-- The mark is looked for once empty ranges are gone, and may come to the front only then. -/
def oneOfSet (text : List Char) : Item :=
  match setPieces text with
  | ('!' :: piece) :: later => .oneOf true (pieceRanges (piece :: later))
  | pieces => .oneOf false (pieceRanges pieces)

/-- The inside of a set and what follows its bracket. A bracket directly at the start, or
after the mark that turns the set round, does not end it. -/
def bracketSet? (text : List Char) : Option (List Char × List Char) :=
  let mark := if text.head? = some '!' then 1 else 0
  let first := mark + if (text.drop mark).head? = some ']' then 1 else 0
  let inside := (text.drop first).takeWhile fun c => c ≠ ']'
  match (text.drop first).dropWhile fun c => c ≠ ']' with
  | _ :: after => some (text.take first ++ inside, after)
  | [] => none

/-- Every step takes a character of the pattern. An open bracket without an end stands for
itself. -/
def itemsWithin : (steps : Nat) → List Char → List Item
  | 0, _ => []
  | _ + 1, [] => []
  | steps + 1, c :: rest =>
    if c = '*' then .star :: itemsWithin steps rest
    else if c = '?' then .any :: itemsWithin steps rest
    else if c = '[' then
      match bracketSet? rest with
      | some (inside, after) => oneOfSet inside :: itemsWithin steps after
      | none => .literal c :: itemsWithin steps rest
    else .literal c :: itemsWithin steps rest

def itemsOf (pattern : String) : List Item := itemsWithin pattern.toList.length pattern.toList

def Item.holds (item : Item) (c : Char) : Bool :=
  match item with
  | .star | .any => true
  | .literal d => c = d
  | .oneOf negated ranges => ranges.any (fun r => r.1 ≤ c && c ≤ r.2) != negated

def anyLater : List Bool → List Bool
  | [] => []
  | b :: rest =>
    let later := anyLater rest
    (b || later.headD false) :: later

/-- For every end of a name, the whole name first and the empty one last, whether it fits the
items. Each item needs one pass over the name. -/
def endsThatFit (name : List Char) : List Item → List Bool
  | [] => name.map (fun _ => false) ++ [true]
  | .star :: items => anyLater (endsThatFit name items)
  | item :: items =>
    List.zipWith (fun c fits => item.holds c && fits) name (endsThatFit name items).tail ++ [false]

def fits (items : List Item) (name : List Char) : Bool := (endsThatFit name items).headD false

inductive SearchFault where
  | unreachable (fault : AccessFault)
  | tooDeep
  deriving DecidableEq, Repr

def SearchFault.message : SearchFault → String
  | .unreachable fault => fault.message
  | .tooDeep => tooDeepText

def SearchFault.isDenial : SearchFault → Bool
  | .unreachable fault => fault.obstacle.isDenial
  | .tooDeep => false

inductive GlobFault where
  | absolute
  | partialDoubleStar
  | search (fault : SearchFault)
  deriving DecidableEq, Repr

def GlobFault.message : GlobFault → String
  | .absolute => "Non-relative patterns are unsupported"
  | .partialDoubleStar => "Invalid pattern: '**' can only be an entire path component"
  | .search fault => fault.message

/-- A part of a pattern. The last kind stands for a slash at the end. -/
inductive PatternPart where
  | anyFolders
  | wildcard (items : List Item)
  | exact (name : String)
  | folderOnly

def hasDoubleStar : List Char → Bool
  | '*' :: '*' :: _ => true
  | _ :: rest => hasDoubleStar rest
  | [] => false

def patternPart (part : String) : Except GlobFault PatternPart :=
  let letters := part.toList
  if part = "**" then .ok .anyFolders
  else if hasDoubleStar letters then .error .partialDoubleStar
  else if letters.any fun c => c = '*' || c = '?' || c = '[' then .ok (.wildcard (itemsOf part))
  else .ok (.exact part)

def patternParts (pattern : String) : Except GlobFault (List PatternPart) :=
  let path := Path.ofString pattern
  if path.root ≠ .relative then .error .absolute
  else
    (path.parts.mapM patternPart).map fun parts =>
      .anyFolders :: parts ++ if pattern.toList.getLast? = some '/' then [.folderOnly] else []

structure Search where
  paths : List Path := []
  fault : Option SearchFault := none

namespace Search

def one (p : Path) : Search := { paths := [p] }

def stopped (fault : SearchFault) : Search := { fault := some fault }

/-- One search behind the other, which a fault of the first does not let begin. -/
def andThen (s later : Search) : Search :=
  match s.fault with
  | some _ => s
  | none => { later with paths := s.paths ++ later.paths }

/-- Goes on from each path that a search comes upon, before the next one is looked for. -/
def through (next : Path → Search) (s : Search) : Search :=
  s.paths.foldr (fun p later => (next p).andThen later) { fault := s.fault }

/-- Where the system refuses access, a search ends as if nothing more were there. -/
def tolerant (s : Search) : Search :=
  if s.fault.any SearchFault.isDenial then { s with fault := none } else s

def distinct (s : Search) : Search := { s with paths := s.paths.eraseDups }

end Search

def entryText (p : Path) (name : String) : String :=
  if p.text.toList.getLast? = some '/' then p.text ++ name else p.text ++ "/" ++ name

/-- The entries of a folder that pass a test and whose names are wanted. A test that fails ends the
search, unless it fails because nothing is there. -/
def sift (p : Path) (test : Listed → Except Obstacle Bool) (isWanted : String → Bool) :
    List Listed → Search
  | [] => {}
  | e :: rest =>
    let later := sift p test isWanted rest
    match test e with
    | .ok passes => if passes && isWanted e.name then (Search.one (p.child e.name)).andThen later else later
    | .error obstacle =>
      if obstacle.meansNothing then later else .stopped (.unreachable ⟨obstacle, entryText p e.name⟩)

def Listed.isPassable (isLast : Bool) (e : Listed) : Except Obstacle Bool :=
  if isLast then .ok true else e.leadsToFolder

namespace System

variable (sys : System)

def siftFolder (p : Path) (test : Listed → Except Obstacle Bool) (isWanted : String → Bool) :
    Search :=
  match sys.list p with
  | .ok entries => sift p test isWanted entries
  | .error obstacle => .stopped (.unreachable ⟨obstacle, p.text⟩)

/-- A folder and all folders below it. Links to folders are not followed. -/
def foldersFrom : (depth : Nat) → Path → Search
  | 0, _ => .stopped .tooDeep
  | depth + 1, p =>
    (Search.one p).andThen
      ((sys.siftFolder p Listed.isFolder fun _ => true).through (foldersFrom depth)).tolerant

def isPassable (isLast : Bool) (p : Path) : Except AccessFault Bool :=
  if isLast then sys.isThere p else sys.isFolder p

/-- The paths one step further on that match a part. All but the last part need folders. -/
def advance (isLast : Bool) (part : PatternPart) (p : Path) : Search :=
  match part with
  | .folderOnly => .one p
  | .anyFolders => sys.foldersFrom sys.depth p
  | .wildcard items =>
    sys.siftFolder p (Listed.isPassable isLast) fun name => fits items name.toList
  | .exact name =>
    match sys.isPassable isLast (p.child name) with
    | .ok true => .one (p.child name)
    | .ok false => {}
    | .error fault => .stopped (.unreachable fault)

/-- The paths that the parts lead to. A path that is reached in several ways counts once. -/
def select : List PatternPart → Path → Search
  | [], p => .one p
  | part :: rest, p => ((sys.advance rest.isEmpty part p).through (select rest)).tolerant.distinct

def regular : List Path → Except AccessFault (List Path)
  | [] => .ok []
  | p :: rest =>
    match sys.isFile p with
    | .error fault => .error fault
    | .ok isFile => (regular rest).map fun found => if isFile then p :: found else found

/-- The regular files at or below a folder to which the parts of a pattern lead. Every path is
judged as soon as it is come upon. -/
def searchFiles (parts : List PatternPart) (target : Path) : Except SearchFault (List Path) :=
  match sys.isFolder target with
  | .error fault => .error (.unreachable fault)
  | .ok false => .ok []
  | .ok true =>
    let search := sys.select parts target
    match sys.regular search.paths, search.fault with
    | .error fault, _ => .error (.unreachable fault)
    | .ok _, some fault => .error fault
    | .ok found, none => .ok found

def glob (target : Path) (pattern : String) : Except GlobFault (List Path) :=
  match patternParts pattern with
  | .error fault => .error fault
  | .ok parts => (sys.searchFiles parts target).mapError .search

end System

end JqTemplate.Files
