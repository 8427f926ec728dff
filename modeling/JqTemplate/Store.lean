import JqTemplate.Check
import JqTemplate.Text.CodePoint

namespace JqTemplate

open Text (CodePoint)

structure Document where
  uri : String
  text : List CodePoint
  version : Int
  statements : List Statement
  result : CheckResult

def Document.source (d : Document) : List Char := Text.shown d.text

def Document.analyze (config : CheckConfig) (uri : String) (text : List CodePoint) (version : Int) :
    Document :=
  ⟨uri, text, version, parse (Text.shown text), check config (Text.shown text)⟩

structure Store where
  documents : List (String × Document)

namespace Store

def empty : Store := ⟨[]⟩

def get? (s : Store) (uri : String) : Option Document := s.documents.lookup uri

def contains (s : Store) (uri : String) : Bool := (s.get? uri).isSome

def size (s : Store) : Nat := s.documents.length

def erase (s : Store) (uri : String) : Store := ⟨s.documents.filter fun e => e.1 ≠ uri⟩

def insert (s : Store) (d : Document) : Store := ⟨(d.uri, d) :: (s.erase d.uri).documents⟩

/-- Opening a document replaces whatever was known under its name. -/
def openDocument (s : Store) (config : CheckConfig) (uri : String) (text : List CodePoint)
    (version : Int) : Store × Document :=
  let d := Document.analyze config uri text version
  (s.insert d, d)

def isStale (s : Store) (uri : String) (version : Int) : Bool :=
  (s.get? uri).any fun d => version ≤ d.version

/-- A new text for a document, which need not be open. A stale change is dropped. -/
def change (s : Store) (config : CheckConfig) (uri : String) (text : List CodePoint)
    (version : Int) : Store × Option Document :=
  if s.isStale uri version then (s, none)
  else
    let (s', d) := s.openDocument config uri text version
    (s', some d)

def close (s : Store) (uri : String) : Store × Option Document := (s.erase uri, s.get? uri)

end Store

end JqTemplate
