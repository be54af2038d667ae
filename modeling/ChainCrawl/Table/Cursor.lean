import ChainCrawl.Cursor.Basic

namespace ChainCrawl

/-- Cursors, at most one for each source. -/
structure CursorTable where
  cursors : List Cursor := []
  deriving DecidableEq

namespace CursorTable

def empty : CursorTable := {}

instance : Inhabited CursorTable := ⟨empty⟩

def find? (s : CursorTable) (key : String) (network : Network) : Option Cursor :=
  s.cursors.find? fun c => c.sourceKey = key && c.network = network

/-- What is stored when a cursor is saved over what is stored already. -/
def advanced (old : Option Cursor) (c : Cursor) : Cursor :=
  match old with
  | some old => { c with height := max c.height old.height }
  | none => c

/-- Saves a cursor; a lower position than the stored one is not taken over. -/
def put (s : CursorTable) (c : Cursor) : CursorTable :=
  let stored := advanced (s.find? c.sourceKey c.network) c
  ⟨stored :: s.cursors.filter fun d => !(d.sourceKey = c.sourceKey && d.network = c.network)⟩

end CursorTable

end ChainCrawl
