import JqTemplate.Block
import JqTemplate.Diagnostic
import JqTemplate.Text.Blank

/-! Matching of openers, branches and closers. Open blocks form a stack. A closer closes
the innermost open block only when it matches; otherwise it is reported and ignored, and
the block stays open. -/
namespace JqTemplate

def openMark : String := "\x7b\x7b"
def closeMark : String := "\x7d\x7d"

def marked (inner : String) : String := openMark ++ inner ++ closeMark

def cited (inner : String) : String := "'" ++ marked inner ++ "'"

structure OpenBlock where
  kind : BlockKind
  opener : Statement
  branches : List Statement
  children : List Block

def OpenBlock.sealed (o : OpenBlock) (closer : Option Statement) : Block :=
  ⟨o.kind, o.opener, closer, o.branches, o.children⟩

/-- The open blocks, innermost first, the finished blocks that no open block encloses, and
what was found so far. -/
structure Nesting where
  stack : List OpenBlock
  roots : List Block
  found : List Diagnostic

namespace Nesting

def empty : Nesting := ⟨[], [], []⟩

def report (n : Nesting) (d : Diagnostic) : Nesting := { n with found := n.found ++ [d] }

def attach (stack : List OpenBlock) (roots : List Block) (b : Block) :
    List OpenBlock × List Block :=
  match stack with
  | [] => ([], roots ++ [b])
  | o :: outer => ({ o with children := o.children ++ [b] } :: outer, roots)

/-- An else without an expression, after which no branch can be reached. -/
def isPlainElse (source : List Char) (s : Statement) : Bool :=
  ((s.span.inner source).drop Keyword.elseBranch.letters.length).all Text.isBlank

def unmatchedClose (kind : BlockKind) (s : Statement) : Diagnostic :=
  { severity := .error
    code := match kind with
      | .conditional => .unmatchedCloseIf
      | .loop => .unmatchedCloseEach
    message := cited kind.closer.spelling ++ " has no matching " ++ cited kind.opener.spelling
    labels := [{ span := s.span, message := "nothing to close" }] }

def mismatchedClose (kind : BlockKind) (innermost : OpenBlock) (s : Statement) : Diagnostic :=
  { severity := .error
    code := .mismatchedClose
    message := cited kind.closer.spelling ++ " does not close the open " ++
      cited innermost.kind.opener.spelling
    labels :=
      [{ span := s.span, message := "expected " ++ cited innermost.kind.closer.spelling },
       { span := innermost.opener.span, message := "block opened here", style := .secondary }] }

def strayElse (s : Statement) : Diagnostic :=
  { severity := .error
    code := .strayElse
    message := cited Keyword.elseBranch.spelling ++ " outside of an " ++
      cited Keyword.openIf.spelling ++ " block"
    labels :=
      [{ span := s.span, message := "no enclosing " ++ cited Keyword.openIf.spelling }] }

def unreachableElse (first s : Statement) : Diagnostic :=
  { severity := .warning
    code := .unreachableElse
    message := "unreachable " ++ cited Keyword.elseBranch.spelling ++ " branch"
    labels :=
      [{ span := s.span,
         message := "a previous " ++ cited Keyword.elseBranch.spelling ++
           " already catches everything" },
       { span := first.span,
         message := "first " ++ cited Keyword.elseBranch.spelling ++ " here",
         style := .secondary }] }

def unclosed (o : OpenBlock) : Diagnostic :=
  { severity := .error
    code := match o.kind with
      | .conditional => .unclosedIf
      | .loop => .unclosedEach
    message := cited o.kind.opener.spelling ++ " is never closed"
    labels := [{ span := o.opener.span, message := "opened here" }]
    suggestions :=
      [⟨"add " ++ cited o.kind.closer.spelling, marked o.kind.closer.spelling⟩] }

def openWith (kind : BlockKind) (s : Statement) (n : Nesting) : Nesting :=
  { n with stack := ⟨kind, s, [], []⟩ :: n.stack }

def closeWith (kind : BlockKind) (s : Statement) (n : Nesting) : Nesting :=
  match n.stack with
  | [] => n.report (unmatchedClose kind s)
  | innermost :: outer =>
    if innermost.kind = kind then
      let (stack, roots) := attach outer n.roots (innermost.sealed (some s))
      { n with stack := stack, roots := roots }
    else n.report (mismatchedClose kind innermost s)

/-- The first plain else among the branches makes a later plain one unreachable. -/
def branchWith (source : List Char) (s : Statement) (n : Nesting) : Nesting :=
  match n.stack with
  | [] => n.report (strayElse s)
  | innermost :: outer =>
    if innermost.kind = .conditional then
      let extended := { innermost with branches := innermost.branches ++ [s] }
      let n' := { n with stack := extended :: outer }
      match innermost.branches.find? (isPlainElse source) with
      | some first => if isPlainElse source s then n'.report (unreachableElse first s) else n'
      | none => n'
    else n.report (strayElse s)

def step (source : List Char) (n : Nesting) (s : Statement) : Nesting :=
  match s.keyword? with
  | some .openIf => openWith .conditional s n
  | some .openEach => openWith .loop s n
  | some .closeIf => closeWith .conditional s n
  | some .closeEach => closeWith .loop s n
  | some .elseBranch => branchWith source s n
  | _ => n

/-- The forest once the text has ended: each open block goes, unclosed, into the next outer
one. `inner` are the blocks that came out of the more deeply nested part. -/
def unwind (roots : List Block) : (inner : List Block) → List OpenBlock → List Block
  | inner, [] => roots ++ inner
  | inner, o :: outer =>
    unwind roots [OpenBlock.sealed { o with children := o.children ++ inner } none] outer

def forest (n : Nesting) : List Block := unwind n.roots [] n.stack

def findings (n : Nesting) : List Diagnostic := n.found ++ n.stack.reverse.map unclosed

end Nesting

end JqTemplate
