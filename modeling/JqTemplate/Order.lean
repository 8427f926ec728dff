namespace JqTemplate

def insertBy {α : Type} (before : α → α → Bool) (x : α) : List α → List α
  | [] => [x]
  | y :: rest => if before y x then y :: insertBy before x rest else x :: y :: rest

/-- An element that came earlier stays in front of every later one, except where `before y x`
says that the later `y` has to stand before `x`. -/
def stableSort {α : Type} (before : α → α → Bool) : List α → List α
  | [] => []
  | x :: rest => insertBy before x (stableSort before rest)

def sortByKey {α : Type} (key : α → Int) (xs : List α) : List α :=
  stableSort (fun y x => key y < key x) xs

end JqTemplate
