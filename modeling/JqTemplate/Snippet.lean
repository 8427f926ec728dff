import JqTemplate.Block.Nesting

namespace JqTemplate

structure Snippet where
  label : String
  body : String
  detail : String
  documentation : String
  deriving DecidableEq, Repr

/-- Tab stops are written with a dollar sign, the last one is number zero. -/
def Snippet.catalog : List Snippet :=
  [{ label := "if"
     body := marked "if $1" ++ "$2" ++ marked "/if" ++ "$0"
     detail := "An " ++ marked "if ..." ++ " directive"
     documentation := "Renders its content only when the expression is truthy." },
   { label := "if-else"
     body := marked "if $1" ++ "$2" ++ marked "else" ++ "$3" ++ marked "/if" ++ "$0"
     detail := "An " ++ marked "if ..." ++ " directive with an " ++ marked "else" ++ " branch"
     documentation :=
       "Renders the first branch when the expression is truthy, the second otherwise." },
   { label := "else"
     body := marked "else $1" ++ "$0"
     detail := "An " ++ marked "else" ++ " branch"
     documentation := "Starts the fallback branch of the enclosing " ++ marked "if" ++
       ". With an expression it acts as an else-if." },
   { label := "each"
     body := marked "each($2) $\x7b1:items\x7d" ++ "$3" ++ marked "/each" ++ "$0"
     detail := "An " ++ marked "each ..." ++ " loop"
     documentation := "Renders its content once per item; $index and $value are in scope." },
   { label := "html"
     body := marked "html $1" ++ "$0"
     detail := "An " ++ marked "html ..." ++ " directive"
     documentation := "Inserts the value without HTML encoding." },
   { label := "="
     body := marked "= $1" ++ "$0"
     detail := "A " ++ marked "= ..." ++ " print directive"
     documentation := "Inserts the HTML-encoded value of the expression." },
   { label := "var"
     body := marked "var $1 = $2" ++ "$0"
     detail := "A " ++ marked "var ..." ++ " binding"
     documentation := "Binds a name for the rest of the template." },
   { label := "tmpl"
     body := marked "tmpl($2) $\x7b1:\"#name\"\x7d" ++ "$0"
     detail := "A " ++ marked "tmpl ..." ++ " include"
     documentation := "Renders a nested template, optionally with its own data." },
   { label := "!"
     body := marked "! $1" ++ "$0"
     detail := "A " ++ marked "! ..." ++ " comment"
     documentation := "Ignored when rendering." }]

def clampColumn (line : List Char) (column : Int) : Nat := min column.toNat line.length

def braceRun (brace : Char) (text : List Char) : Nat :=
  ((text.take 2).takeWhile (fun c => c = brace)).length

/-- How many opening braces end at the column and how many closing braces begin there. -/
def braceContext (line : List Char) (column : Int) : Nat × Nat :=
  let spot := clampColumn line column
  (braceRun '{' (line.take spot).reverse, braceRun '}' (line.drop spot))

def replacementRange (line : List Char) (column : Int) : Nat × Nat :=
  let spot := clampColumn line column
  let (before, after) := braceContext line column
  (spot - before, spot + after)

end JqTemplate
