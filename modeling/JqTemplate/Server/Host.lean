import JqTemplate.Text.Hexadecimal
import JqTemplate.Text.Quoted
import JqTemplate.Text.Split

/-! The host in a document name, the part between two slashes and the path. Brackets in it
enclose an address of the sixth version or of a later one, and no character may hide one of
the marks that divide a name. -/
namespace JqTemplate.Server

inductive HostFault where
  | misplacedBrackets
  | futureAddress
  | bracketedFour
  | noAddress (text : List Char)
  | hiddenMark (host : List Char)
  deriving DecidableEq, Repr

def HostFault.message : HostFault → String
  | .misplacedBrackets => "Invalid IPv6 URL"
  | .futureAddress => "IPvFuture address is invalid"
  | .bracketedFour => "An IPv4 address cannot be in brackets"
  | .noAddress text =>
    String.ofList (Text.quoted text) ++ " does not appear to be an IPv4 or IPv6 address"
  | .hiddenMark host =>
    "netloc '" ++ String.ofList host ++ "' contains invalid characters under NFKC normalization"

namespace Address

def decimalValue (digits : List Char) : Nat := digits.foldl (fun n c => 10 * n + (c.toNat - 48)) 0

/-- A number up to 255 without zeros in front. -/
def isOctet (part : List Char) : Bool :=
  !part.isEmpty && part.all Char.isDigit && part.length ≤ 3 &&
    (part = ['0'] || part.head? ≠ some '0') && decimalValue part ≤ 255

def isFour (text : List Char) : Bool :=
  let parts := Text.splitOn '.' text
  parts.length = 4 && parts.all isOctet

def isGroup (part : List Char) : Bool :=
  !part.isEmpty && part.length ≤ 4 && part.all fun c => (Text.hexValue? c).isSome

/-- An address of the fourth version at the end stands for two groups. -/
def widened? (parts : List (List Char)) : Option (List (List Char)) :=
  let last := parts.getLastD []
  if !last.contains '.' then some parts
  else if isFour last then some (parts.dropLast ++ [['0'], ['0']])
  else none

/-- The groups on one side of a gap. Where the gap is at the end of the address, that side has
one part, which is empty. -/
def sideGroups (side : List (List Char)) : List (List Char) := if side = [[]] then [] else side

/-- Eight groups, or fewer with one gap, which is an empty part inside. -/
def areGroups (parts : List (List Char)) : Bool :=
  let inner := parts.tail.dropLast
  match inner.findIdx? List.isEmpty with
  | none => parts.length = 8 && parts.all isGroup
  | some i =>
    let before := sideGroups (parts.take (i + 1))
    let after := sideGroups (parts.drop (i + 2))
    before.length + after.length ≤ 7 && (before ++ after).all isGroup

/-- A zone may follow behind a percent sign. -/
def isSix (text : List Char) : Bool :=
  let address := text.takeWhile fun c => c ≠ '%'
  let zoneIsGood := match text.dropWhile fun c => c ≠ '%' with
    | [] => true
    | _ :: zone => !zone.isEmpty && !zone.contains '%'
  let parts := Text.splitOn ':' address
  zoneIsGood && 3 ≤ parts.length &&
    match widened? parts with
    | some groups => groups.length ≤ 9 && areGroups groups
    | none => false

def isFuture (text : List Char) : Bool :=
  let digits := text.tail.takeWhile fun c => (Text.hexValue? c).isSome
  match text.tail.drop digits.length with
  | '.' :: _ :: _ => !digits.isEmpty
  | _ => false

def check (text : List Char) : Except HostFault Unit :=
  if text.head? = some 'v' then if isFuture text then .ok () else .error .futureAddress
  else if isFour text then .error .bracketedFour
  else if isSix text then .ok ()
  else .error (.noAddress text)

end Address

def upTo (mark : Char) (text : List Char) : List Char := text.takeWhile fun c => c ≠ mark

def behind (mark : Char) (text : List Char) : List Char := (text.dropWhile fun c => c ≠ mark).tail

def withoutUser (host : List Char) : List Char :=
  (host.reverse.takeWhile fun c => c ≠ '@').reverse

/-- Brackets come in pairs. Nothing stands before them, and behind them only what a colon begins. -/
def checkBrackets (host : List Char) : Except HostFault Unit :=
  let opens := host.contains '['
  let closes := host.contains ']'
  if opens != closes then .error .misplacedBrackets
  else if !opens then .ok ()
  else
    let proper := withoutUser host
    if !proper.contains '[' then Address.check (upTo ':' proper)
    else
      let rest := behind ']' (behind '[' proper)
      if proper.head? ≠ some '[' || rest.head?.any (fun c => c ≠ ':') then
        .error .misplacedBrackets
      else Address.check (upTo ']' (behind '[' proper))

/-- The characters whose plain form holds a mark that divides names, Unicode 14. -/
def hidingMarks : List Nat :=
  [0x2047, 0x2048, 0x2049, 0x2100, 0x2101, 0x2105, 0x2106, 0x2a74, 0xfe13, 0xfe16, 0xfe55,
   0xfe56, 0xfe5f, 0xfe6b, 0xff03, 0xff0f, 0xff1a, 0xff1f, 0xff20]

def checkHost (host : List Char) : Except HostFault Unit :=
  match checkBrackets host with
  | .error fault => .error fault
  | .ok () =>
    if host.any (fun c => hidingMarks.contains c.toNat) then .error (.hiddenMark host) else .ok ()

end JqTemplate.Server
