import ChainCrawl.Json.Lexer

namespace ChainCrawl.Json

/-- An array or object that is still open. Its finished parts are held last one first. -/
inductive Frame where
  | items (done : List Document)
  | fields (done : List (Option String × Document)) (name : Option String)

/-- What the reader is about to read. -/
inductive Reading where
  /-- A value; right after an opening bracket the array may close instead. -/
  | value (mayClose : Bool) (stack : List Frame)
  /-- A field name; right after an opening brace the object may close instead. -/
  | name (mayClose : Bool) (done : List (Option String × Document)) (stack : List Frame)
  | colon (done : List (Option String × Document)) (name : Option String) (stack : List Frame)
  /-- What follows a finished value. -/
  | after (doc : Document) (stack : List Frame)

namespace Reading

def leaf? : Token → Option Document
  | .null => some .null
  | .bool b => some (.bool b)
  | .number (some (.int i)) => some (.int i)
  | .number (some (.float x)) => some (.float x)
  | .number none => some .broken
  | .text (some s) => some (.str s)
  | .text none => some .broken
  | _ => none

def step : Reading → Token → Option Reading
  | value _ stack, .openArray => some (value true (.items [] :: stack))
  | value _ stack, .openObject => some (name true [] stack)
  | value true (.items _ :: stack), .closeArray => some (after (.arr []) stack)
  | value _ stack, token => (leaf? token).map (after · stack)
  | name _ done stack, .text content => some (colon done content stack)
  | name true _ stack, .closeObject => some (after (.obj []) stack)
  | colon done key stack, .colon => some (value false (.fields done key :: stack))
  | after doc (.items done :: stack), .comma => some (value false (.items (doc :: done) :: stack))
  | after doc (.items done :: stack), .closeArray =>
    some (after (.arr (doc :: done).reverse) stack)
  | after doc (.fields done key :: stack), .comma => some (name false ((key, doc) :: done) stack)
  | after doc (.fields done key :: stack), .closeObject =>
    some (after (.obj ((key, doc) :: done).reverse) stack)
  | _, _ => none

def run (start : Reading) (tokens : List Token) : Option Reading :=
  tokens.foldlM step start

/-- The document, if exactly one value has been read. -/
def finished? : Reading → Option Document
  | after doc [] => some doc
  | _ => none

end Reading

def Document.read? (text : String) : Option Document := do
  let tokens ← tokens? text.toList
  let reading ← (Reading.value false []).run tokens
  reading.finished?

def read? (text : String) : Option Json :=
  (Document.read? text).bind Document.value?

end ChainCrawl.Json
