import ChainCrawl.Text.Split
import ChainCrawl.Web.Escape

namespace ChainCrawl.Web

/-- A path. -/
inductive Path where
  /-- Steps, each after a slash. -/
  | steps (names : List String)
  /-- A text that is not taken apart. -/
  | bare (text : String)
  deriving DecidableEq

namespace Path

def text : Path → String
  | steps names => String.join (names.map ("/" ++ ·))
  | bare text => text

def reserved : List Char :=
  [' ', '"', '#', '<', '>', '?', '\x60', '\x7b', '\x7d']

/-- A step with its full stops set free. -/
def plainDots : List Char → List Char
  | '%' :: '2' :: 'e' :: rest | '%' :: '2' :: 'E' :: rest => '.' :: plainDots rest
  | c :: rest => c :: plainDots rest
  | [] => []

def isHere (step : List Char) : Bool :=
  plainDots step = ['.']

def isBack (step : List Char) : Bool :=
  plainDots step = ['.', '.']

def isDrive : List Char → Bool
  | [letter, mark] => letter.isAlpha && (mark = ':' || mark = '|')
  | _ => false

/-- The steps so far, last one first, after going back. A step that may not be left stays. -/
def goBack (isRoot : List Char → Bool) : List (List Char) → List (List Char)
  | [] => []
  | last :: before => if isRoot last then last :: before else before

/-- Carries out the steps of a path after those in `done`, the last of which comes first. A path
that ends with `.` or `..` ends with a slash. -/
def resolve (isRoot : List Char → Bool) : (done : List (List Char)) → List (List Char) →
    List (List Char)
  | done, [] => done.reverse
  | done, [step] =>
    if isBack step then ([] :: goBack isRoot done).reverse
    else if isHere step then ([] :: done).reverse
    else (step :: done).reverse
  | done, step :: rest =>
    if isBack step then resolve isRoot (goBack isRoot done) rest
    else if isHere step then resolve isRoot done rest
    else resolve isRoot (step :: done) rest

/-- The path that a text after the first slash writes. -/
def read (isSlash : Char → Bool) (cs : List Char) : Path :=
  let names := resolve (fun _ => false) [] (Text.splitWhere isSlash cs)
  .steps (names.map (escape reserved))

/-- The steps without empty ones in front, except the last one. -/
def withoutEmptyFront : List (List Char) → List (List Char)
  | [] :: next :: rest => withoutEmptyFront (next :: rest)
  | names => names

def readFile (isSlash : Char → Bool) (cs : List Char) : Path × Bool :=
  let written := (Text.splitWhere isSlash cs).map fun step =>
    if isDrive step then step.take 1 ++ [':'] else step
  let names := withoutEmptyFront (resolve isDrive [] written)
  (.steps (names.map (escape reserved)), written.any isDrive)

end Path

end ChainCrawl.Web
