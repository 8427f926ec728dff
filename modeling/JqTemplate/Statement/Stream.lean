import JqTemplate.Statement

/-! From a text to its statements. A directive runs from two opening braces to the first
two closing braces after them; opening braces without such an end are literal text. All
text outside directives is content, in runs that are as long as they can be.

The text is read once from left to right, by a driver that takes directives and a scanner
that takes runs of content. At a pair of opening braces either of them asks where the next
terminator is. The last answer is kept, so that the stretch up to it is not searched again. -/
namespace JqTemplate

/-- The offset of the first two closing braces; `offset` is where the text itself starts. -/
def firstClose : (offset : Nat) → List Char → Option Nat
  | _, [] => none
  | offset, c :: rest =>
    if c = '}' ∧ rest.head? = some '}' then some offset else firstClose (offset + 1) rest

/-- The last answer about the next terminator: none before the first question. -/
abbrev LastClose := Option (Option Nat)

/-- Whether the last answer already settles a question about the text from `start` on. An
answer that there is none holds for the rest of the text. -/
def LastClose.settles (last : LastClose) (start : Nat) : Bool :=
  match last with
  | none => false
  | some none => true
  | some (some close) => start ≤ close

def LastClose.next (last : LastClose) (start : Nat) (text : List Char) : Option Nat :=
  if last.settles start then last.join else firstClose start text

/-- A question about the next terminator at or after `start`, with its answer. `searched`
records that the text had to be looked at. -/
structure Question where
  start : Nat
  answer : Option Nat
  searched : Bool
  deriving DecidableEq, Repr

def LastClose.ask (last : LastClose) (start : Nat) (text : List Char) : Question :=
  ⟨start, last.next start text, !last.settles start⟩

def opensHere (c : Char) (rest : List Char) : Bool := c = '{' && rest.head? = some '{'

structure ContentRun where
  stop : Nat
  asked : List Question
  last : LastClose
  deriving DecidableEq, Repr

def scanContent : LastClose → (offset : Nat) → List Char → ContentRun
  | last, offset, [] => ⟨offset, [], last⟩
  | last, offset, c :: rest =>
    if opensHere c rest then
      let question := last.ask (offset + 2) rest.tail
      match question.answer with
      | some close => ⟨offset, [question], some (some close)⟩
      | none =>
        let run := scanContent (some none) (offset + 1) rest
        { run with asked := question :: run.asked }
    else scanContent last (offset + 1) rest

inductive ReadEvent where
  | asked (question : Question)
  | read (statement : Statement)
  deriving DecidableEq, Repr

def ReadEvent.question? : ReadEvent → Option Question
  | .asked question => some question
  | .read _ => none

def ReadEvent.statement? : ReadEvent → Option Statement
  | .asked _ => none
  | .read statement => some statement

def questionAt? (last : LastClose) (offset : Nat) (c : Char) (rest : List Char) : Option Question :=
  if opensHere c rest then some (last.ask (offset + 2) rest.tail) else none

def LastClose.after (last : LastClose) : Option Question → LastClose
  | none => last
  | some question => some question.answer

/-- Here `skip` counts the characters that still belong to the statement last read. A statement
of content takes one character at least. -/
def drive : LastClose → (skip offset : Nat) → List Char → List ReadEvent
  | _, _, _, [] => []
  | last, skip + 1, offset, _ :: rest => drive last skip (offset + 1) rest
  | last, 0, offset, c :: rest =>
    let question := questionAt? last offset c rest
    question.toList.map .asked ++
      match question.bind Question.answer with
      | some close =>
        let body := rest.tail.take (close - (offset + 2))
        .read ⟨Form.ofBody body, ⟨offset, close + 2⟩⟩ ::
          drive (some (some close)) (body.length + 3) (offset + 1) rest
      | none =>
        let run := scanContent (last.after question) (offset + 1) rest
        run.asked.map .asked ++ .read ⟨.content, ⟨offset, run.stop⟩⟩ ::
          drive run.last (run.stop - (offset + 1)) (offset + 1) rest

def reading (text : List Char) : List ReadEvent := drive none 0 0 text

def questions (text : List Char) : List Question := (reading text).filterMap ReadEvent.question?

def parse (text : List Char) : List Statement := (reading text).filterMap ReadEvent.statement?

end JqTemplate
