import JqTemplate.Server.Host
import JqTemplate.Server.Session
import JqTemplate.Text.Hexadecimal
import JqTemplate.Text.Utf8

namespace JqTemplate.Server

def unescape : List Char → List Nat
  | [] => []
  | '%' :: high :: low :: rest =>
    match Text.hexValue? high, Text.hexValue? low with
    | some h, some l => (16 * h + l) :: unescape rest
    | _, _ => Text.Utf8.encodeChar '%' ++ unescape (high :: low :: rest)
  | c :: rest => Text.Utf8.encodeChar c ++ unescape rest

/-- Octets that are no text are replaced, one replacement for each faulty stretch. -/
def decodeLossy : (steps : Nat) → List Nat → List Char
  | 0, _ => []
  | steps + 1, octets =>
    match Text.Utf8.decode octets with
    | .ok text => text
    | .error fault =>
      let before := match Text.Utf8.decode (octets.take fault.position) with
        | .ok text => text
        | .error _ => []
      before ++ '\ufffd' :: decodeLossy steps (octets.drop (fault.position + fault.count))

/-- Leading blanks and controls do not count, and tabs and line ends nowhere do. -/
def cleaned (uri : List Char) : List Char :=
  (uri.dropWhile fun c => c.toNat ≤ 32).filter fun c => c ≠ '\t' && c ≠ '\r' && c ≠ '\n'

def isSchemeChar (c : Char) : Bool := c.isAlphanum || c = '+' || c = '-' || c = '.'

def scheme? (uri : List Char) : Option (List Char × List Char) :=
  let name := uri.takeWhile fun c => c ≠ ':'
  match uri.dropWhile fun c => c ≠ ':' with
  | _ :: rest =>
    if (name.head?.any Char.isAlpha) && name.all isSchemeChar then some (name.map Char.toLower, rest)
    else none
  | [] => none

/-- A name without its scheme, taken apart: the host, if two slashes announce one, and the
path up to a query or fragment. Both still carry their escapes. -/
structure Parts where
  host : List Char
  path : List Char
  deriving DecidableEq, Repr

def Parts.ofText (rest : List Char) : Parts :=
  let before := rest.takeWhile fun c => c ≠ '?' && c ≠ '#'
  match before with
  | '/' :: '/' :: more => ⟨more.takeWhile fun c => c ≠ '/', more.dropWhile fun c => c ≠ '/'⟩
  | _ => ⟨[], before⟩

def decoded (text : List Char) : List Char :=
  let octets := unescape text
  decodeLossy (octets.length + 1) octets

/-- A drive is a letter and a colon behind the first slash; it stands without that slash and
in small letters. -/
def withoutDriveSlash (path : List Char) : List Char :=
  match path with
  | '/' :: letter :: ':' :: rest =>
    if letter.isAlpha then letter.toLower :: ':' :: rest else path
  | _ => path

/-- A host goes in front of the path, behind two slashes. -/
def Parts.filePath (p : Parts) : List Char :=
  let host := decoded p.host
  let path := decoded p.path
  if host.isEmpty || path.isEmpty then withoutDriveSlash path else '/' :: '/' :: host ++ path

def partsOf (uri : String) : Option (List Char) × Parts :=
  let text := cleaned uri.toList
  match scheme? text with
  | some (scheme, rest) => (some scheme, Parts.ofText rest)
  | none => (none, Parts.ofText text)

def checkName (uri : String) : Except HostFault Unit := checkHost (partsOf uri).2.host

def filePath? (uri : String) : Except HostFault (Option String) :=
  match checkName uri, partsOf uri with
  | .error fault, _ => .error fault
  | .ok (), (some ['f', 'i', 'l', 'e'], parts) => .ok (some (String.ofList parts.filePath))
  | .ok (), _ => .ok none

def readName : NameReader := fun uri => (filePath? uri).mapError HostFault.message

end JqTemplate.Server
