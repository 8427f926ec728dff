import JqTemplate.Text.Quoted

namespace JqTemplate.Files

structure Obstacle where
  number : Nat
  text : String
  deriving DecidableEq, Repr

namespace Obstacle

def missing : Obstacle := ⟨2, "No such file or directory"⟩
def denied : Obstacle := ⟨13, "Permission denied"⟩
def notAFolder : Obstacle := ⟨20, "Not a directory"⟩
def isFolder : Obstacle := ⟨21, "Is a directory"⟩
def nameTooLong : Obstacle := ⟨36, "File name too long"⟩
def isMissing (o : Obstacle) : Bool := o.number = 2

def isLinkLoop (o : Obstacle) : Bool := o.number = 40

def isDenial (o : Obstacle) : Bool := o.number = 1 || o.number = 13

/-- Whether an obstacle only tells that nothing is there: a name is missing on the way, stands for
no folder or no open file, or leads round in a circle. -/
def meansNothing (o : Obstacle) : Bool := [2, 9, 20, 40].contains o.number

end Obstacle

structure AccessFault where
  obstacle : Obstacle
  path : String
  deriving DecidableEq, Repr

def AccessFault.message (f : AccessFault) : String :=
  s!"[Errno {f.obstacle.number}] {f.obstacle.text}: " ++ Text.quotedString f.path

end JqTemplate.Files
