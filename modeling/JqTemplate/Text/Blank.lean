import JqTemplate.Text.CharRange

/-! Blank characters, the ones that trimming removes. The separators 1C to 1F and the
next-line control count; a zero-width space does not. -/
namespace JqTemplate.Text

def blankRanges : List CharRange :=
  [(0x9, 0xd), (0x1c, 0x20), (0x85, 0x85), (0xa0, 0xa0), (0x1680, 0x1680), (0x2000, 0x200a),
   (0x2028, 0x2029), (0x202f, 0x202f), (0x205f, 0x205f), (0x3000, 0x3000)]

def isBlank (c : Char) : Bool := CharRange.covers blankRanges c

def trimStart (text : List Char) : List Char := text.dropWhile isBlank

def trimEnd (text : List Char) : List Char := (text.reverse.dropWhile isBlank).reverse

def trim (text : List Char) : List Char := trimEnd (trimStart text)

def leadingBlanks (text : List Char) : List Char := text.takeWhile isBlank

theorem leadingBlanks_append_trimStart (text : List Char) :
    leadingBlanks text ++ trimStart text = text :=
  List.takeWhile_append_dropWhile

end JqTemplate.Text
