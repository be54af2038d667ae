import ChainCrawl.Word

namespace ChainCrawl.Web.Punycode

/-- The digit of a number below thirty-six: a letter, and after the last letter a decimal digit. -/
def digitChar (d : Nat) : Char :=
  if d < 26 then Char.ofNat (d + 'a'.toNat) else Char.ofNat (d - 26 + '0'.toNat)

/-- The number below thirty-six that a digit stands for. -/
def digit? (c : Char) : Option Nat :=
  if c.isLower then some (c.toNat - 'a'.toNat)
  else if c.isUpper then some (c.toNat - 'A'.toNat)
  else if c.isDigit then some (c.toNat - '0'.toNat + 26)
  else none

/-- The digits below this bound end a number; `place` is thirty-six for the first digit, and
thirty-six more for each one after it. -/
def threshold (place bias : Nat) : Nat :=
  if place ≤ bias then 1 else if bias + 26 ≤ place then 26 else place - bias

theorem one_le_threshold (place bias : Nat) : 1 ≤ threshold place bias := by
  unfold threshold
  split <;> (try split) <;> omega

/-- The bias for a number of steps that has been made small, and the places that this took. -/
def settle (steps place : Nat) : Nat :=
  if 455 < steps then settle (steps / 35) (place + 36)
  else place + 36 * steps / (steps + 38)
termination_by steps
decreasing_by exact Nat.div_lt_self (by omega) (by omega)

/-- The bias after a number of steps, when the text has `count` letters. The first number is
expected to be far greater than those after it. -/
def adapt (steps count : Nat) (isFirst : Bool) : Nat :=
  let damped := if isFirst then steps / 700 else steps / 2
  settle (damped + damped / count) 0

def writeNumber (bias place n : Nat) : List Char :=
  let t := threshold place bias
  if n < t then [digitChar n]
  else digitChar (t + (n - t) % (36 - t)) :: writeNumber bias (place + 36) ((n - t) / (36 - t))
termination_by n
decreasing_by
  have hpos := one_le_threshold place bias
  have hdiv := Nat.div_le_self (n - threshold place bias) (36 - threshold place bias)
  omega

/-- Reads a number that is added to `sum`; the next digit counts `weight`. None if a sum or a
weight leaves the numbers of 32 bits. -/
def readNumber? (bias : Nat) : (place weight sum : Nat) → List Char → Option (Nat × List Char)
  | _, _, _, [] => none
  | place, weight, sum, c :: rest =>
    match digit? c with
    | none => none
    | some d =>
      let next := sum + d * weight
      let t := threshold place bias
      let heavier := weight * (36 - t)
      if Word.maxUInt32 < next then none
      else if d < t then some (next, rest)
      else if Word.maxUInt32 < heavier then none
      else readNumber? bias (place + 36) heavier next rest

theorem length_lt_of_readNumber? {bias place weight sum n : Nat} {cs rest : List Char}
    (h : readNumber? bias place weight sum cs = some (n, rest)) : rest.length < cs.length := by
  induction cs generalizing place weight sum with
  | nil => simp [readNumber?] at h
  | cons c cs ih =>
    rw [readNumber?] at h
    split at h
    · cases h
    · dsimp only at h
      split at h
      · cases h
      · split at h
        · cases h
          simp
        · split at h
          · cases h
          · have hlt := ih h
            simp only [List.length_cons]
            omega

/-- What a writer knows between two letters. -/
structure Writing where
  /-- The letters that are written. -/
  count : Nat
  /-- The steps since the last one. -/
  steps : Nat
  bias : Nat
  isFirst : Bool
  /-- The digits so far. -/
  digits : List Char

/-- Passes one letter of the text while the letters of one code point are written. -/
def Writing.pass (code : Nat) (w : Writing) (c : Char) : Writing :=
  if c.toNat < code then { w with steps := w.steps + 1 }
  else if c.toNat = code then
    { count := w.count + 1
      steps := 0
      bias := adapt w.steps (w.count + 1) w.isFirst
      isFirst := false
      digits := w.digits ++ writeNumber w.bias 36 w.steps }
  else w

/-- Writes the letters of the given code points, which ascend; `code` is the least one that can
still come. -/
def writeCodes (cs : List Char) : (codes : List Nat) → (code : Nat) → Writing → Writing
  | [], _, w => w
  | next :: codes, code, w =>
    let reached := { w with steps := w.steps + (next - code) * (w.count + 1) }
    let passed := cs.foldl (Writing.pass next) reached
    writeCodes cs codes (next + 1) { passed with steps := passed.steps + 1 }

def isBasic (c : Char) : Bool :=
  c.toNat < 0x80

/-- The code points beyond ASCII in ascending order, each one once. -/
def furtherCodes (cs : List Char) : List Nat :=
  ((cs.filter fun c => !isBasic c).map Char.toNat).mergeSort.eraseDups

/-- The text in letters of ASCII. Those that are ASCII come first as they are; after a hyphen follow
the other letters in the order of their code points. Each is written as the number of steps from the
one before, where a step is one place in the text or, after the last place, one code point. The
digits of such a number have a base that hangs on the numbers before it. -/
def encode (cs : List Char) : List Char :=
  let basic := cs.filter isBasic
  let hyphen := if basic.isEmpty then [] else ['-']
  let start : Writing := ⟨basic.length, 0, 72, true, []⟩
  basic ++ hyphen ++ (writeCodes cs (furtherCodes cs) 0x80 start).digits

/-- Puts letters into a text as the numbers say; `steps` leads to the last letter put there, and
`code` is its code point. -/
def insertLetters (bias code steps : Nat) (isFirst : Bool) (text digits : List Char) :
    Option (List Char) :=
  match digits with
  | [] => some text
  | c :: more =>
    match h : readNumber? bias 36 1 steps (c :: more) with
    | none => none
    | some (reached, rest) =>
      let count := text.length + 1
      let next := code + reached / count
      let place := reached % count
      if next.isValidChar then
        insertLetters (adapt (reached - steps) count isFirst) next (place + 1) false
          (text.insertIdx place (Char.ofNat next)) rest
      else none
termination_by digits.length
decreasing_by exact length_lt_of_readNumber? h

/-- The text that letters of ASCII stand for. A hyphen at the very start parts nothing. -/
def decode? (cs : List Char) : Option (List Char) :=
  let digits := (cs.reverse.takeWhile (· != '-')).reverse
  let basic := cs.take (cs.length - digits.length - 1)
  if basic.isEmpty then insertLetters 72 0x80 0 true [] cs
  else if basic.all isBasic then insertLetters 72 0x80 0 true basic digits
  else none

end ChainCrawl.Web.Punycode
