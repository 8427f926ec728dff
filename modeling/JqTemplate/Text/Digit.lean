import JqTemplate.Text.Blank

namespace JqTemplate.Text

/-- The zeros, Unicode 14. The other nine digits of a script follow its zero in order. -/
def zeros : List Nat :=
  [0x30, 0x660, 0x6f0, 0x7c0, 0x966, 0x9e6, 0xa66, 0xae6, 0xb66, 0xbe6, 0xc66, 0xce6, 0xd66,
   0xde6, 0xe50, 0xed0, 0xf20, 0x1040, 0x1090, 0x17e0, 0x1810, 0x1946, 0x19d0, 0x1a80, 0x1a90,
   0x1b50, 0x1bb0, 0x1c40, 0x1c50, 0xa620, 0xa8d0, 0xa900, 0xa9d0, 0xa9f0, 0xaa50, 0xabf0, 0xff10,
   0x104a0, 0x10d30, 0x11066, 0x110f0, 0x11136, 0x111d0, 0x112f0, 0x11450, 0x114d0, 0x11650,
   0x116c0, 0x11730, 0x118e0, 0x11950, 0x11c50, 0x11d50, 0x11da0, 0x16a60, 0x16ac0, 0x16b50,
   0x1d7ce, 0x1d7d8, 0x1d7e2, 0x1d7ec, 0x1d7f6, 0x1e140, 0x1e2f0, 0x1e950, 0x1fbf0]

def digitValue? (c : Char) : Option Nat :=
  (zeros.find? fun first => first ≤ c.toNat && c.toNat < first + 10).map fun first => c.toNat - first

/-- The digits of a number, of which two neighbours may have an underscore between them. -/
def digitValues? : List Char → Option (List Nat)
  | [] => some []
  | '_' :: rest =>
    if rest.head?.any (fun c => (digitValue? c).isSome) then digitValues? rest else none
  | c :: rest =>
    match digitValue? c, digitValues? rest with
    | some d, some ds => some (d :: ds)
    | _, _ => none

/-- Numbers may stand between blanks, the separators 1C to 1F aside. -/
def isNumberBlank (c : Char) : Bool := isBlank c && !(0x1c ≤ c.toNat && c.toNat ≤ 0x1f)

def trimNumber (text : List Char) : List Char :=
  ((text.dropWhile isNumberBlank).reverse.dropWhile isNumberBlank).reverse

def natural? (text : List Char) : Option Nat :=
  match text with
  | [] | '_' :: _ => none
  | _ => (digitValues? text).map fun digits => digits.foldl (fun n d => 10 * n + d) 0

def integer? (text : List Char) : Option Int :=
  match trimNumber text with
  | '-' :: rest => (natural? rest).map fun n => -n
  | '+' :: rest => (natural? rest).map fun n => n
  | rest => (natural? rest).map fun n => n

def isDigits (text : List Char) : Bool := (natural? text).isSome

def withoutSign : List Char → List Char
  | '-' :: rest | '+' :: rest => rest
  | text => text

def isDecimal (text : List Char) : Bool :=
  let whole := text.takeWhile fun c => c ≠ '.'
  match text.drop whole.length with
  | [] => isDigits whole
  | _ :: fraction =>
    (isDigits whole || whole.isEmpty) && (isDigits fraction || fraction.isEmpty) &&
      !(whole.isEmpty && fraction.isEmpty)

def isReal (text : List Char) : Bool :=
  let body := withoutSign (trimNumber text)
  let mantissa := body.takeWhile fun c => c ≠ 'e' && c ≠ 'E'
  let isFinite := match body.drop mantissa.length with
    | [] => isDecimal mantissa
    | _ :: power => isDecimal mantissa && isDigits (withoutSign power)
  isFinite || ["inf", "infinity", "nan"].contains (String.ofList (body.map Char.toLower))

end JqTemplate.Text
