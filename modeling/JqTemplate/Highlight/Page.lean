import JqTemplate.Highlight.Token

/-! Highlighting as a web page. Each stretch of one class on one line is a span; no span
crosses a line. -/
namespace JqTemplate.Highlight

def cssClass : TokenKind → String
  | .other => "x"
  | .multilineComment => "cm"
  | .preprocessor => "cp"
  | .error => "err"
  | .operator => "o"
  | .keyword => "k"
  | .whitespace => "w"
  | .name => "n"
  | .text => ""
  | .punctuation => "p"
  | .tag => "nt"
  | .attribute => "na"
  | .entity => "ni"
  | .string => "s"

def escapeMarkup (c : Char) : List Char :=
  if c = '&' then "&amp;".toList
  else if c = '<' then "&lt;".toList
  else if c = '>' then "&gt;".toList
  else [c]

structure StyleRule where
  selector : String
  declarations : String
  kind : String

def styleRules : List StyleRule :=
  [⟨"c", "color: #3D7B7B; font-style: italic", "Comment"⟩,
   ⟨"err", "border: 1px solid #F00", "Error"⟩,
   ⟨"k", "color: #008000; font-weight: bold", "Keyword"⟩,
   ⟨"o", "color: #666", "Operator"⟩,
   ⟨"ch", "color: #3D7B7B; font-style: italic", "Comment.Hashbang"⟩,
   ⟨"cm", "color: #3D7B7B; font-style: italic", "Comment.Multiline"⟩,
   ⟨"cp", "color: #9C6500", "Comment.Preproc"⟩,
   ⟨"cpf", "color: #3D7B7B; font-style: italic", "Comment.PreprocFile"⟩,
   ⟨"c1", "color: #3D7B7B; font-style: italic", "Comment.Single"⟩,
   ⟨"cs", "color: #3D7B7B; font-style: italic", "Comment.Special"⟩,
   ⟨"gd", "color: #A00000", "Generic.Deleted"⟩,
   ⟨"ge", "font-style: italic", "Generic.Emph"⟩,
   ⟨"ges", "font-weight: bold; font-style: italic", "Generic.EmphStrong"⟩,
   ⟨"gr", "color: #E40000", "Generic.Error"⟩,
   ⟨"gh", "color: #000080; font-weight: bold", "Generic.Heading"⟩,
   ⟨"gi", "color: #008400", "Generic.Inserted"⟩,
   ⟨"go", "color: #717171", "Generic.Output"⟩,
   ⟨"gp", "color: #000080; font-weight: bold", "Generic.Prompt"⟩,
   ⟨"gs", "font-weight: bold", "Generic.Strong"⟩,
   ⟨"gu", "color: #800080; font-weight: bold", "Generic.Subheading"⟩,
   ⟨"gt", "color: #04D", "Generic.Traceback"⟩,
   ⟨"kc", "color: #008000; font-weight: bold", "Keyword.Constant"⟩,
   ⟨"kd", "color: #008000; font-weight: bold", "Keyword.Declaration"⟩,
   ⟨"kn", "color: #008000; font-weight: bold", "Keyword.Namespace"⟩,
   ⟨"kp", "color: #008000", "Keyword.Pseudo"⟩,
   ⟨"kr", "color: #008000; font-weight: bold", "Keyword.Reserved"⟩,
   ⟨"kt", "color: #B00040", "Keyword.Type"⟩,
   ⟨"m", "color: #666", "Literal.Number"⟩,
   ⟨"s", "color: #BA2121", "Literal.String"⟩,
   ⟨"na", "color: #687822", "Name.Attribute"⟩,
   ⟨"nb", "color: #008000", "Name.Builtin"⟩,
   ⟨"nc", "color: #00F; font-weight: bold", "Name.Class"⟩,
   ⟨"no", "color: #800", "Name.Constant"⟩,
   ⟨"nd", "color: #A2F", "Name.Decorator"⟩,
   ⟨"ni", "color: #717171; font-weight: bold", "Name.Entity"⟩,
   ⟨"ne", "color: #CB3F38; font-weight: bold", "Name.Exception"⟩,
   ⟨"nf", "color: #00F", "Name.Function"⟩,
   ⟨"nl", "color: #767600", "Name.Label"⟩,
   ⟨"nn", "color: #00F; font-weight: bold", "Name.Namespace"⟩,
   ⟨"nt", "color: #008000; font-weight: bold", "Name.Tag"⟩,
   ⟨"nv", "color: #19177C", "Name.Variable"⟩,
   ⟨"ow", "color: #A2F; font-weight: bold", "Operator.Word"⟩,
   ⟨"w", "color: #BBB", "Text.Whitespace"⟩,
   ⟨"mb", "color: #666", "Literal.Number.Bin"⟩,
   ⟨"mf", "color: #666", "Literal.Number.Float"⟩,
   ⟨"mh", "color: #666", "Literal.Number.Hex"⟩,
   ⟨"mi", "color: #666", "Literal.Number.Integer"⟩,
   ⟨"mo", "color: #666", "Literal.Number.Oct"⟩,
   ⟨"sa", "color: #BA2121", "Literal.String.Affix"⟩,
   ⟨"sb", "color: #BA2121", "Literal.String.Backtick"⟩,
   ⟨"sc", "color: #BA2121", "Literal.String.Char"⟩,
   ⟨"dl", "color: #BA2121", "Literal.String.Delimiter"⟩,
   ⟨"sd", "color: #BA2121; font-style: italic", "Literal.String.Doc"⟩,
   ⟨"s2", "color: #BA2121", "Literal.String.Double"⟩,
   ⟨"se", "color: #AA5D1F; font-weight: bold", "Literal.String.Escape"⟩,
   ⟨"sh", "color: #BA2121", "Literal.String.Heredoc"⟩,
   ⟨"si", "color: #A45A77; font-weight: bold", "Literal.String.Interpol"⟩,
   ⟨"sx", "color: #008000", "Literal.String.Other"⟩,
   ⟨"sr", "color: #A45A77", "Literal.String.Regex"⟩,
   ⟨"s1", "color: #BA2121", "Literal.String.Single"⟩,
   ⟨"ss", "color: #19177C", "Literal.String.Symbol"⟩,
   ⟨"bp", "color: #008000", "Name.Builtin.Pseudo"⟩,
   ⟨"fm", "color: #00F", "Name.Function.Magic"⟩,
   ⟨"vc", "color: #19177C", "Name.Variable.Class"⟩,
   ⟨"vg", "color: #19177C", "Name.Variable.Global"⟩,
   ⟨"vi", "color: #19177C", "Name.Variable.Instance"⟩,
   ⟨"vm", "color: #19177C", "Name.Variable.Magic"⟩,
   ⟨"il", "color: #666", "Literal.Number.Integer.Long"⟩]

def cssBlock (selector declarations : String) : String :=
  selector ++ " \x7b " ++ declarations ++ " \x7d"

def StyleRule.text (r : StyleRule) : String :=
  cssBlock ("body ." ++ r.selector) r.declarations ++ " /* " ++ r.kind ++ " */"

def lineNumberStyle (color background : String) : String :=
  "color: " ++ color ++ "; background-color: " ++ background ++
    "; padding-left: 5px; padding-right: 5px;"

def pageRules : List String :=
  [cssBlock "pre" "line-height: 125%;",
   cssBlock "td.linenos .normal" (lineNumberStyle "inherit" "transparent"),
   cssBlock "span.linenos" (lineNumberStyle "inherit" "transparent"),
   cssBlock "td.linenos .special" (lineNumberStyle "#000000" "#ffffc0"),
   cssBlock "span.linenos.special" (lineNumberStyle "#000000" "#ffffc0"),
   cssBlock "body .hll" "background-color: #ffffcc",
   cssBlock "body" "background: #f8f8f8;"]

def notice : List String :=
  ["generated by Pygments <https://pygments.org/>",
   "Copyright 2006-present by the Pygments team.",
   "Licensed under the BSD license, see LICENSE for details."]

def pageHead : List String :=
  ["<!DOCTYPE html PUBLIC \"-//W3C//DTD HTML 4.01//EN\"",
   "   \"http://www.w3.org/TR/html4/strict.dtd\">",
   "<!--"] ++ notice ++
  ["-->", "<html>", "<head>", "  <title></title>",
   "  <meta http-equiv=\"content-type\" content=\"text/html; charset=None\">",
   "  <style type=\"text/css\">", "/*"] ++ notice ++ ["*/"] ++ pageRules ++
  styleRules.map StyleRule.text ++
  ["", "  </style>", "</head>", "<body>", "<h2></h2>", "", ""]

def pageTail : String := "</pre></div>\n</body>\n</html>\n"

/-- The line that is being written: the class of its last span, and its text with that span
still open. -/
structure OpenLine where
  kind : TokenKind
  text : List Char

/-- A kind without a class stands outside all spans. -/
def spanStart (kind : TokenKind) : List Char :=
  if (cssClass kind).isEmpty then [] else ("<span class=\"" ++ cssClass kind ++ "\">").toList

def spanEnd (kind : TokenKind) : List Char :=
  if (cssClass kind).isEmpty then [] else "</span>".toList

def continueLine (line : Option OpenLine) (kind : TokenKind) (part : List Char) :
    Option OpenLine :=
  if part.isEmpty then line
  else
    match line with
    | none => some ⟨kind, spanStart kind ++ part⟩
    | some l =>
      if cssClass l.kind = cssClass kind then some ⟨l.kind, l.text ++ part⟩
      else some ⟨kind, l.text ++ spanEnd l.kind ++ spanStart kind ++ part⟩

def finishLine : Option OpenLine → List Char
  | none => ['\n']
  | some l => l.text ++ spanEnd l.kind ++ ['\n']

def pageStep (kind : TokenKind) (state : List Char × Option OpenLine) (c : Char) :
    List Char × Option OpenLine :=
  if c = '\n' then (state.1 ++ finishLine state.2, none)
  else (state.1, continueLine state.2 kind (escapeMarkup c))

def pageLines (pieces : List Piece) : List Char × Option OpenLine :=
  pieces.foldl (fun state p => p.value.foldl (pageStep p.kind) state) ([], none)

def pageBody (pieces : List Piece) : List Char :=
  match pageLines pieces with
  | (done, none) => done
  | (done, some l) => done ++ finishLine (some l)

def page (pieces : List Piece) : List Char :=
  (String.intercalate "\n" pageHead ++ "<div class=\"highlight\"><pre><span></span>").toList ++
    pageBody pieces ++ pageTail.toList

end JqTemplate.Highlight
