/-! Escape sequences of terminals: the escape character, an opening bracket, any number of
parameters, then of intermediate characters, and one final character. -/
namespace JqTemplate.Text

def escapeChar : Char := '\x1b'

def isParameter (c : Char) : Bool := '0' ≤ c && c ≤ '?'
def isIntermediate (c : Char) : Bool := ' ' ≤ c && c ≤ '/'
def isFinal (c : Char) : Bool := '@' ≤ c && c ≤ '~'

/-- What follows a sequence, read behind its bracket. The three kinds of characters do not
overlap, so a sequence ends in one way only. -/
def afterSequence? (text : List Char) : Option (List Char) :=
  match (text.dropWhile isParameter).dropWhile isIntermediate with
  | c :: rest => if isFinal c then some rest else none
  | [] => none

def sequenceRest? : List Char → Option (List Char)
  | c :: '[' :: rest => if c = escapeChar then afterSequence? rest else none
  | _ => none

/-- Where the sequence does not end, its escape character stays. -/
def withoutSequencesWithin : (steps : Nat) → List Char → List Char
  | 0, text => text
  | _ + 1, [] => []
  | steps + 1, c :: text =>
    match sequenceRest? (c :: text) with
    | some rest => withoutSequencesWithin steps rest
    | none => c :: withoutSequencesWithin steps text

def withoutSequences (text : List Char) : List Char := withoutSequencesWithin text.length text

end JqTemplate.Text
