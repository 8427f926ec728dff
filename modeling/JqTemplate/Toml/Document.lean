import JqTemplate.Toml.Scalar

namespace JqTemplate.Toml

/-- A name that keys may no longer open: a value that is complete, or a table that has been
declared. -/
inductive Flag where
  | frozen
  | declared
  deriving DecidableEq, Repr

/-- A deep mark also holds for all longer paths. -/
structure Mark where
  path : List Key
  flag : Flag
  deep : Bool
  deriving DecidableEq, Repr

abbrev Marks := List Mark

def Marks.hold (marks : Marks) (path : List Key) (flag : Flag) : Bool :=
  marks.any fun m => m.flag = flag && (m.path = path || (m.deep && m.path.isPrefixOf path))

def Marks.release (marks : Marks) (path : List Key) : Marks :=
  marks.filter fun m => !path.isPrefixOf m.path

inductive NestFault where
  | notATable
  | taken
  deriving DecidableEq, Repr

/-- Changes the table at a path, which is created as far as it is missing. Where the path
meets an array of tables and `throughArrays` is set, it goes on in the last of them. -/
def atPath (throughArrays : Bool) : List Key → (Table → Except NestFault Table) → Table →
    Except NestFault Table
  | [], change, t => change t
  | key :: path, change, t =>
    match t.get? key with
    | none => (atPath throughArrays path change []).map fun sub => t.set key (.table sub)
    | some (.table sub) =>
      (atPath throughArrays path change sub).map fun sub' => t.set key (.table sub')
    | some (.array items) =>
      if throughArrays then
        match items.getLast? with
        | some (.table sub) =>
          (atPath throughArrays path change sub).map fun sub' =>
            t.set key (.array (items.dropLast ++ [.table sub']))
        | _ => .error .notATable
      else .error .notATable
    | some _ => .error .notATable

def insertNew (key : Key) (value : Value) (t : Table) : Except NestFault Table :=
  if t.has key then .error .taken else .ok (t.set key value)

def appendTable (key : Key) (t : Table) : Except NestFault Table :=
  match t.get? key with
  | none => .ok (t.set key (.array [.table []]))
  | some (.array items) => .ok (t.set key (.array (items ++ [.table []])))
  | some _ => .error .notATable

structure InlineState where
  entries : Table
  marks : Marks

def addInline (s : InlineState) (key : List Key) (value : Value) (rest : List Char) :
    Except Fault InlineState :=
  let stem := key.getLastD []
  if s.marks.hold key .frozen then fail (.immutable key) rest
  else
    match atPath false key.dropLast (insertNew stem value) s.entries with
    | .error .notATable => fail .overwritten rest
    | .error .taken => fail (.duplicateInlineKey stem) rest
    | .ok entries =>
      let marks := if value.isContainer then ⟨key, .frozen, true⟩ :: s.marks else s.marks
      .ok ⟨entries, marks⟩

mutual

/-- Each call on a part of the text has one step less, and takes a character at least every
second time; twice as many steps as characters are therefore enough. -/
def readValue : (steps : Nat) → Reader Value
  | 0, text => fail .invalidValue text
  | steps + 1, text =>
    let c := text.head?
    if c = some Text.doubleQuote then
      (readString Text.doubleQuote text).map fun (s, rest) => (.string s, rest)
    else if c = some Text.apostrophe then
      (readString Text.apostrophe text).map fun (s, rest) => (.string s, rest)
    else if ['t', 'r', 'u', 'e'].isPrefixOf text then .ok (.boolean true, text.drop 4)
    else if ['f', 'a', 'l', 's', 'e'].isPrefixOf text then .ok (.boolean false, text.drop 5)
    else if c = some '[' then
      match skipLayout false text.tail with
      | .error fault => .error fault
      | .ok inner =>
        (readItems steps inner).map fun (items, rest) => (.array items, rest)
    else if c = some '{' then
      match skipBlanks text.tail with
      | '}' :: rest => .ok (.table [], rest)
      | inner =>
        (readEntries steps ⟨[], []⟩ inner).map fun (entries, rest) => (.table entries, rest)
    else
      match dateTime? text with
      | some (d, value, rest) => if d.isValid then .ok (value, rest) else fail .invalidDate text
      | none =>
        match time? text with
        | some (t, rest) => .ok (.time t, rest)
        | none =>
          let length := integerLength text
          if length > digitLimit then fail (.tooManyDigits length) text
          else
            match (number? text).orElse fun _ => specialFloat? text with
            | some result => .ok result
            | none => fail .invalidValue text

def readItems : (steps : Nat) → Reader (List Value)
  | 0, text => fail .unclosedArray text
  | steps + 1, text =>
    if text.head? = some ']' then .ok ([], text.tail)
    else
      match readValue steps text with
      | .error fault => .error fault
      | .ok (item, afterItem) =>
        match skipLayout false afterItem with
        | .error fault => .error fault
        | .ok afterLayout =>
          if afterLayout.head? = some ']' then .ok ([item], afterLayout.tail)
          else if afterLayout.head? = some ',' then
            match skipLayout false afterLayout.tail with
            | .error fault => .error fault
            | .ok next => (readItems steps next).map fun (items, rest) => (item :: items, rest)
          else fail .unclosedArray afterLayout

/-- The entries of an inline table up to its brace. A comma must be followed by an entry. -/
def readEntries : (steps : Nat) → InlineState → Reader Table
  | 0, _, text => fail .unclosedInlineTable text
  | steps + 1, state, text =>
    match readKey text with
    | .error fault => .error fault
    | .ok (key, afterKey) =>
      if afterKey.head? ≠ some '=' then fail .missingEquals afterKey
      else
        match readValue steps (skipBlanks afterKey.tail) with
        | .error fault => .error fault
        | .ok (value, rest) =>
          match addInline state key value rest with
          | .error fault => .error fault
          | .ok next =>
            let after := skipBlanks rest
            if after.head? = some '}' then .ok (next.entries, after.tail)
            else if after.head? = some ',' then readEntries steps next (skipBlanks after.tail)
            else fail .unclosedInlineTable after

end

def valueSteps (text : List Char) : Nat := 2 * text.length + 2

/-- A document as far as it has been read. `pending` are tables that dotted keys opened; they
count as declared from the next header on. -/
structure Document where
  table : Table
  marks : Marks
  pending : List (List Key)
  header : List Key

def Document.empty : Document := ⟨[], [], [], []⟩

def settlePending (d : Document) : Document :=
  { d with
    marks := d.pending.map (fun path => ⟨path, .declared, false⟩) ++ d.marks
    pending := [] }

def openedPaths (header key : List Key) : List (List Key) :=
  (List.range (key.length - 1)).map fun i => header ++ key.take (i + 1)

def readPair (d : Document) : Reader Document := fun text =>
  match readKey text with
  | .error fault => .error fault
  | .ok (key, afterKey) =>
    if afterKey.head? ≠ some '=' then fail .missingEquals afterKey
    else
      let valueText := skipBlanks afterKey.tail
      match readValue (valueSteps valueText) valueText with
      | .error fault => .error fault
      | .ok (value, rest) =>
        let opened := openedPaths d.header key
        let parent := d.header ++ key.dropLast
        match opened.find? fun path => d.marks.hold path .declared with
        | some path => fail (.redefined path) rest
        | none =>
          if d.marks.hold parent .frozen then fail (.immutable parent) rest
          else
            match atPath true parent (insertNew (key.getLastD []) value) d.table with
            | .error _ => fail .overwritten rest
            | .ok table =>
              let marks := if value.isContainer then ⟨d.header ++ key, .frozen, true⟩ :: d.marks
                else d.marks
              .ok ({ d with table := table, marks := marks, pending := opened ++ d.pending }, rest)

def readTableHeader (d : Document) : Reader Document := fun text =>
  match readKey (skipBlanks text) with
  | .error fault => .error fault
  | .ok (key, rest) =>
    if d.marks.hold key .declared || d.marks.hold key .frozen then fail (.declaredTwice key) rest
    else
      match atPath true key .ok d.table with
      | .error _ => fail .overwritten rest
      | .ok table =>
        if rest.head? = some ']' then
          .ok ({ d with table := table, marks := ⟨key, .declared, false⟩ :: d.marks, header := key },
            rest.tail)
        else fail .unclosedHeader rest

/-- A header of an array of tables; `text` begins behind its two brackets. What was declared
below the key belongs to the table before, so it is released. -/
def readArrayHeader (d : Document) : Reader Document := fun text =>
  match readKey (skipBlanks text) with
  | .error fault => .error fault
  | .ok (key, rest) =>
    if d.marks.hold key .frozen then fail (.immutable key) rest
    else
      match atPath true key.dropLast (appendTable (key.getLastD [])) d.table with
      | .error _ => fail .overwritten rest
      | .ok table =>
        if rest.take 2 = [']', ']'] then
          .ok ({ d with
              table := table
              marks := ⟨key, .declared, false⟩ :: d.marks.release key
              header := key }, rest.drop 2)
        else fail .unclosedArrayHeader rest

def isKeyStart (c : Char) : Bool :=
  isBareKeyChar c || c = Text.apostrophe || c = Text.doubleQuote

def readStatement (d : Document) (c : Char) : Reader Document := fun text =>
  if isKeyStart c then readPair d text
  else if c = '[' then
    if text.tail.head? = some '[' then readArrayHeader (settlePending d) (text.drop 2)
    else readTableHeader (settlePending d) text.tail
  else if c = '#' then .ok (d, text)
  else fail .invalidStatement text

def readLines : (steps : Nat) → Document → List Char → Except Fault Document
  | 0, d, _ => .ok d
  | steps + 1, d, text =>
    match skipBlanks text with
    | [] => .ok d
    | c :: rest =>
      if c = '\n' then readLines steps d rest
      else
        match readStatement d c (c :: rest) with
        | .error fault => .error fault
        | .ok (next, after) =>
          match skipComment (skipBlanks after) with
          | .error fault => .error fault
          | .ok [] => .ok next
          | .ok (ending :: more) =>
            if ending = '\n' then readLines steps next more
            else fail .trailingText (ending :: more)

def unifyLineFeeds : List Char → List Char
  | [] => []
  | c :: rest =>
    if c = '\r' ∧ rest.head? = some '\n' then unifyLineFeeds rest else c :: unifyLineFeeds rest

def parse (text : List Char) : Except Failure Table :=
  let source := unifyLineFeeds text
  match readLines (source.length + 1) Document.empty source with
  | .ok d => .ok d.table
  | .error fault => .error (fault.failure source)

end JqTemplate.Toml
