import JqTemplate.Command.Output
import JqTemplate.Command.Reading
import JqTemplate.Config.Locate
import JqTemplate.Order

namespace JqTemplate.Command

open Files (System Path)

/-- The checker as the files so far have left it, what has been said of them, and whether one of them
has failed. -/
structure Progress where
  checker : Checker
  lines : List String := []
  failed : Bool := false
  deriving DecidableEq

/-- One more file. One that cannot be read fails, and the run goes on. -/
def Progress.step (read : Path → Except ReadFault Source) (color : Bool) (p : Progress)
    (path : Path) : Progress :=
  match read path with
  | .error fault => { p with lines := p.lines ++ [unreadable path fault], failed := true }
  | .ok source =>
    let (result, checker) := p.checker.check (JqTemplate.parse source.text) source.text
    { checker := checker
      lines := p.lines ++ result.diagnostics.map (Report.render color source)
      failed := p.failed || result.hasErrors }

def sortedPaths (paths : List Path) : List Path := stableSort Path.before paths.eraseDups

def templates (sys : System) (patterns : List String) (target : Path) :
    Except Files.GlobFault (List Path) :=
  match sys.isFile target with
  | .error fault => .error (.search (.unreachable fault))
  | .ok true => .ok [target]
  | .ok false => (patterns.mapM (sys.glob target)).map fun found => sortedPaths found.flatten

def summaryLine (count : Nat) : String := s!"checked {count} template(s) — no errors"

def Progress.output (count : Nat) (p : Progress) : Output :=
  if p.failed then { stderr := ended p.lines, status := 1 }
  else { stdout := ended [summaryLine count], stderr := ended p.lines }

def nothingFound : Output := { stderr := ended ["warning: no template files found"] }

def checkFiles (read : Path → Except ReadFault Source) (config : CheckConfig) (color : Bool)
    (paths : List Path) : Output :=
  if paths.isEmpty then nothingFound
  else (paths.foldl (Progress.step read color) { checker := ⟨config, [], []⟩ }).output paths.length

/-- A complaint about the configuration ends the run; other faults of it are not foreseen. -/
def inspect (sys : System) (color : Bool) (target : Path) : Except Abort Output :=
  match Config.for? sys target with
  | .error (.complaint path cause) =>
    .ok (Output.failed ("error: " ++ (Config.Fault.complaint path cause).message))
  | .error fault => .error (.config fault)
  | .ok config =>
    match templates sys config.patterns target with
    | .error fault => .error (.pattern fault)
    | .ok paths => .ok (checkFiles (readSource sys) config.check color paths)

end JqTemplate.Command
