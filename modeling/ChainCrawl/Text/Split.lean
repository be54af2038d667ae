namespace ChainCrawl.Text

/-- The pieces between the characters that pass a test; there is one more piece than there are such
characters. -/
def splitWhere (isBreak : Char → Bool) : List Char → List (List Char)
  | [] => [[]]
  | c :: rest =>
    if isBreak c then [] :: splitWhere isBreak rest
    else match splitWhere isBreak rest with
      | [] => [[c]]
      | piece :: more => (c :: piece) :: more

/-- The text before the first character that passes a test, and the text from there on. -/
def cutBefore (isBreak : Char → Bool) (cs : List Char) : List Char × List Char :=
  (cs.takeWhile fun c => !isBreak c, cs.dropWhile fun c => !isBreak c)

/-- The text before the last character that passes a test, and the text after it; none if no
character passes. -/
def cutAtLast? (isBreak : Char → Bool) (cs : List Char) : Option (List Char × List Char) :=
  match cutBefore isBreak cs.reverse with
  | (_, []) => none
  | (after, _ :: before) => some (before.reverse, after.reverse)

end ChainCrawl.Text
