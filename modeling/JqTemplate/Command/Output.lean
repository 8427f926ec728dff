import JqTemplate.Command.Request
import JqTemplate.Config
import JqTemplate.Files.Glob
import JqTemplate.Text.Escape

namespace JqTemplate.Command

structure Output where
  stdout : String := ""
  stderr : String := ""
  status : Nat := 0
  deriving DecidableEq, Repr

namespace Output

/-- Without colors, escape sequences are taken out of both streams, those that come from a
template too. -/
def withoutSequences (o : Output) : Output :=
  { o with
    stdout := String.ofList (Text.withoutSequences o.stdout.toList)
    stderr := String.ofList (Text.withoutSequences o.stderr.toList) }

def colored (color : Bool) (o : Output) : Output := if color then o else o.withoutSequences

def printed (lines : List String) : Output := { stdout := ended lines }

def failed (line : String) : Output := { stderr := ended [line], status := 1 }

end Output

/-- A fault that no command knows how to report. -/
inductive Abort where
  | config (fault : Config.Fault)
  | pattern (fault : Files.GlobFault)
  | log (fault : Files.AccessFault)
  | nullInPath

def Abort.message : Abort → String
  | .config fault => fault.message
  | .pattern fault => fault.message
  | .log fault => fault.message
  | .nullInPath => Files.ResolveFault.nullInPath.message

def misuseStatus : Nat := 2

def Refusal.output : Refusal → Except Abort Output
  | .noArguments => .ok { stderr := Scope.program.help, status := misuseStatus }
  | .usage scope fault => .ok { stderr := fault.report scope, status := misuseStatus }
  | .nullInPath => .error .nullInPath

end JqTemplate.Command
