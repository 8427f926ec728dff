import JqTemplate.Diagnostic.Report
import JqTemplate.Files.System
import JqTemplate.Highlight.Prepare
import JqTemplate.Text.Utf8

/-! Reading a template from a file. Every line ending becomes a line feed; a byte order mark
stays. -/
namespace JqTemplate.Command

open Files (System Path)

inductive ReadFault where
  | access (fault : Files.AccessFault)
  | undecodable (fault : Text.Utf8.Fault)
  deriving DecidableEq, Repr

def ReadFault.message : ReadFault → String
  | .access fault => fault.message
  | .undecodable fault => fault.message

/-- The text of a file, under the name by which its path is written. -/
def readSource (sys : System) (path : Path) : Except ReadFault Source :=
  match sys.read path with
  | .error obstacle => .error (.access ⟨obstacle, path.text⟩)
  | .ok octets =>
    match Text.Utf8.decode octets with
    | .error fault => .error (.undecodable fault)
    | .ok text => .ok ⟨path.text, Highlight.unifyLines text⟩

def unreadable (path : Path) (fault : ReadFault) : String :=
  "error: " ++ path.text ++ ": " ++ fault.message

end JqTemplate.Command
