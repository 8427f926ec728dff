import JqTemplate.Text.Hexadecimal

/-! Texts as editors send them. Beside characters they may hold surrogates, which make a character
only in pairs. The analysis sees a replacement character in their place. -/
namespace JqTemplate.Text

/-- A character, or the surrogate with a number from `0xd800` on. -/
inductive CodePoint where
  | scalar (c : Char)
  | surrogate (n : Fin 2048)
  deriving DecidableEq, Repr

namespace CodePoint

instance : Coe Char CodePoint := ⟨scalar⟩

def shown : CodePoint → Char
  | .scalar c => c
  | .surrogate _ => '\ufffd'

end CodePoint

def shown (text : List CodePoint) : List Char := text.map CodePoint.shown

def ofChars (text : List Char) : List CodePoint := text.map CodePoint.scalar

def lastLine (text : List CodePoint) : List CodePoint :=
  (text.reverse.takeWhile fun p => p ≠ .scalar '\n').reverse

structure UnpairedFault where
  surrogate : Fin 2048
  position : Nat
  deriving DecidableEq, Repr

def UnpairedFault.message (f : UnpairedFault) : String :=
  "'utf-16-le' codec can't encode character '\\u" ++
    String.ofList (hexDigits 4 (0xd800 + f.surrogate.val)) ++ s!"' in position {f.position}: " ++
    "surrogates not allowed"

def checkPaired : (position : Nat) → List CodePoint → Except UnpairedFault Unit
  | _, [] => .ok ()
  | position, .scalar _ :: rest => checkPaired (position + 1) rest
  | position, .surrogate n :: _ => .error ⟨n, position⟩

end JqTemplate.Text
