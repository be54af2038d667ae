namespace ChainCrawl.Text

/-- A reader of text. It takes what it knows from the start of a text and gives back the rest, or
takes nothing and fails. -/
abbrev Scan := StateT (List Char) Option

namespace Scan

variable {α : Type}

def char (expected : Char) : Scan Unit
  | c :: rest => if c = expected then some ((), rest) else none
  | [] => none

/-- The next character, which is not taken; none at the end. -/
def peek : Scan (Option Char) := fun cs => some (cs.head?, cs)

def satisfy (test : Char → Bool) : Scan Char
  | c :: rest => if test c then some (c, rest) else none
  | [] => none

def takeWhile (test : Char → Bool) : Scan (List Char) := fun cs =>
  some (cs.takeWhile test, cs.dropWhile test)

def takeUpTo (width : Nat) (test : Char → Bool) : Scan (List Char) := fun cs =>
  let found := (cs.takeWhile test).take width
  if found.isEmpty then none else some (found, cs.drop found.length)

def takeExactly (width : Nat) (test : Char → Bool) : Scan (List Char) := do
  let found ← takeUpTo width test
  guard (found.length = width)
  return found

def literal (expected : List Char) : Scan Unit := fun cs =>
  if expected.isPrefixOf cs then some ((), cs.drop expected.length) else none

def optional (scan : Scan α) : Scan (Option α) := fun cs =>
  match scan cs with
  | some (a, rest) => some (some a, rest)
  | none => some (none, cs)

def finish : Scan Unit
  | [] => some ((), [])
  | _ :: _ => none

def all (scan : Scan α) (s : String) : Option α :=
  ((do let a ← scan; finish; return a : Scan α) s.toList).map (·.1)

end Scan

def decimal (digits : List Char) : Nat :=
  Nat.ofDigitChars 10 digits 0

end ChainCrawl.Text
