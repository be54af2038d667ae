import ChainCrawl.Json.Access
import ChainCrawl.Json.Reader
import ChainCrawl.Proofs.Json.Document
import ChainCrawl.Proofs.Json.Lexer

namespace ChainCrawl.Json

mutual
/-- Every number inside is whole and fits 64 bits, signed or unsigned. -/
def Whole : Json → Prop
  | .int i => Word.minInt64 ≤ i ∧ i ≤ Word.maxUInt64
  | .float _ => False
  | .arr items => WholeItems items
  | .obj fields => WholeFields fields
  | _ => True

def WholeItems : List Json → Prop
  | [] => True
  | v :: rest => v.Whole ∧ WholeItems rest

def WholeFields : List (String × Json) → Prop
  | [] => True
  | (_, v) :: rest => v.Whole ∧ WholeFields rest
end

theorem WholeFields.append {first rest : List (String × Json)} (hfirst : WholeFields first)
    (hrest : WholeFields rest) : WholeFields (first ++ rest) := by
  induction first with
  | nil => exact hrest
  | cons head first ih => exact ⟨hfirst.1, ih hfirst.2⟩

theorem WholeItems.map {α : Type} {write : α → Json} (h : ∀ a, (write a).Whole) (as : List α) :
    WholeItems (as.map write) := by
  induction as with
  | nil => exact trivial
  | cons a rest ih => exact ⟨h a, ih⟩

theorem WholeFields.optionalField {α : Type} (write : α → Json) (h : ∀ a, (write a).Whole)
    (name : String) (o : Option α) : WholeFields (Json.optionalField name (o.map write)) := by
  cases o with
  | none => exact trivial
  | some a => exact ⟨h a, trivial⟩

mutual
/-- The tokens that a value is written with. -/
def tokensOf : Json → List Token
  | .null => [.null]
  | .bool b => [.bool b]
  | .int i => [.number (some (.int i))]
  | .float x => [.number (some (.float x))]
  | .str s => [.text (some s)]
  | .arr items => .openArray :: itemTokens items ++ [.closeArray]
  | .obj fields => .openObject :: fieldTokens fields ++ [.closeObject]

def itemTokens : List Json → List Token
  | [] => []
  | [v] => tokensOf v
  | v :: w :: rest => tokensOf v ++ .comma :: itemTokens (w :: rest)

def fieldTokens : List (String × Json) → List Token
  | [] => []
  | [(key, v)] => .text (some key) :: .colon :: tokensOf v
  | (key, v) :: w :: rest =>
    .text (some key) :: .colon :: tokensOf v ++ .comma :: fieldTokens (w :: rest)
end

section Scanning

variable {rest : List Char} {tokens : List Token}

theorem HasTokens.text (h : HasTokens rest tokens) (s : String) :
    HasTokens (renderText s ++ rest) (.text (some s) :: tokens) :=
  .cons '"' (s.toList.flatMap escape ++ ['"']) (scanToken_renderText s rest) rfl h

theorem isSpace_of_isDigit {c : Char} (h : c.isDigit = true) : isSpace c = false := by
  refine Bool.eq_false_iff.2 fun hspace => ?_
  simp only [isSpace, Bool.or_eq_true, decide_eq_true_eq] at hspace
  obtain ((rfl | rfl) | rfl) | rfl := hspace <;> exact absurd h (by decide)

theorem HasTokens.int (h : HasTokens rest tokens) {i : Int} (hleast : Word.minInt64 ≤ i)
    (hgreatest : i ≤ Word.maxUInt64) (hrest : EndsNumber rest) :
    HasTokens (renderInt i ++ rest) (.number (some (.int i)) :: tokens) := by
  have hscan := scanToken_renderInt hleast hgreatest hrest
  obtain ⟨c, found, heq, hspace⟩ : ∃ c found, renderInt i = c :: found ∧ isSpace c = false := by
    cases i with
    | ofNat n =>
      obtain ⟨c, found, heq⟩ := List.exists_cons_of_ne_nil (@Nat.toDigits_ne_nil n 10)
      have hc : c.isDigit = true :=
        Nat.isDigit_of_mem_toDigits (by decide) (by decide) (heq ▸ List.mem_cons_self)
      exact ⟨c, found, heq, isSpace_of_isDigit hc⟩
    | negSucc n => exact ⟨'-', _, rfl, rfl⟩
  rw [heq] at hscan ⊢
  exact .cons c found hscan hspace h

mutual
/-- The text of a value has the tokens of the value, where no number is continued. -/
theorem hasTokens_renderValue : ∀ {v : Json} {rest : List Char} {tokens : List Token},
    v.Whole → EndsNumber rest → HasTokens rest tokens →
      HasTokens (renderValue v ++ rest) (tokensOf v ++ tokens)
  | .null, _, _, _, _, h => .cons 'n' ['u', 'l', 'l'] rfl rfl h
  | .bool true, _, _, _, _, h => .cons 't' ['r', 'u', 'e'] rfl rfl h
  | .bool false, _, _, _, _, h => .cons 'f' ['a', 'l', 's', 'e'] rfl rfl h
  | .int _, _, _, hv, hrest, h => h.int hv.1 hv.2 hrest
  | .float _, _, _, hv, _, _ => False.elim hv
  | .str s, _, _, _, _, h => h.text s
  | .arr items, _, _, hv, hrest, h => by
    have hclose := HasTokens.cons ']' [] rfl rfl h
    have hitems := hasTokens_renderItems hv (.cons rfl) hclose
    have hopen := HasTokens.cons '[' [] rfl rfl hitems
    simpa [renderValue, tokensOf] using hopen
  | .obj fields, _, _, hv, hrest, h => by
    have hclose := HasTokens.cons '\x7d' [] rfl rfl h
    have hfields := hasTokens_renderFields hv (.cons rfl) hclose
    have hopen := HasTokens.cons '\x7b' [] rfl rfl hfields
    simpa [renderValue, tokensOf] using hopen

theorem hasTokens_renderItems : ∀ {vs : List Json} {rest : List Char} {tokens : List Token},
    WholeItems vs → EndsNumber rest → HasTokens rest tokens →
      HasTokens (renderItems vs ++ rest) (itemTokens vs ++ tokens)
  | [], _, _, _, _, h => h
  | [_], _, _, hv, hrest, h => hasTokens_renderValue hv.1 hrest h
  | v :: w :: vs, _, _, hv, hrest, h => by
    have hmore := hasTokens_renderItems hv.2 hrest h
    have hcomma := HasTokens.cons ',' [] rfl rfl hmore
    have hfirst := hasTokens_renderValue hv.1 (.cons rfl) hcomma
    simpa [renderItems, itemTokens] using hfirst

theorem hasTokens_renderFields : ∀ {fs : List (String × Json)} {rest : List Char}
    {tokens : List Token}, WholeFields fs → EndsNumber rest → HasTokens rest tokens →
      HasTokens (renderFields fs ++ rest) (fieldTokens fs ++ tokens)
  | [], _, _, _, _, h => h
  | [(key, v)], _, _, hv, hrest, h => by
    have hvalue := hasTokens_renderValue hv.1 hrest h
    have hcolon := HasTokens.cons ':' [] rfl rfl hvalue
    simpa [renderFields, fieldTokens] using hcolon.text key
  | (key, v) :: w :: fs, _, _, hv, hrest, h => by
    have hmore := hasTokens_renderFields hv.2 hrest h
    have hcomma := HasTokens.cons ',' [] rfl rfl hmore
    have hvalue := hasTokens_renderValue hv.1 (.cons rfl) hcomma
    have hcolon := HasTokens.cons ':' [] rfl rfl hvalue
    simpa [renderFields, fieldTokens] using hcolon.text key
end

end Scanning

namespace Reading

theorem run_cons (start : Reading) (token : Token) (tokens : List Token) :
    start.run (token :: tokens) = (start.step token).bind fun next => next.run tokens := rfl

/-- A value may stand wherever an array may also close. -/
theorem run_leaf {token : Token} {doc : Document} (h : leaf? token = some doc) (mayClose : Bool)
    (stack : List Frame) (tokens : List Token) :
    (value mayClose stack).run (token :: tokens) = (after doc stack).run tokens := by
  have hstep : (value mayClose stack).step token = some (after doc stack) := by
    cases token <;> simp_all [step, leaf?]
  rw [run_cons, hstep]
  rfl

mutual
/-- Reading the tokens of a value comes to that value, whatever stands around it. -/
theorem run_tokensOf : ∀ (v : Json) (mayClose : Bool) (stack : List Frame) (tokens : List Token),
    (value mayClose stack).run (tokensOf v ++ tokens) = (after (.ofJson v) stack).run tokens
  | .null, _, _, _ => run_leaf rfl _ _ _
  | .bool _, _, _, _ => run_leaf rfl _ _ _
  | .int _, _, _, _ => run_leaf rfl _ _ _
  | .float _, _, _, _ => run_leaf rfl _ _ _
  | .str _, _, _, _ => run_leaf rfl _ _ _
  | .arr [], _, _, _ => rfl
  | .arr (v :: rest), _, stack, tokens => by
    have hitems := run_itemTokens (v :: rest) nofun true [] stack tokens
    simpa [tokensOf, run_cons, step, Document.ofJson] using hitems
  | .obj [], _, _, _ => rfl
  | .obj (field :: rest), _, stack, tokens => by
    have hfields := run_fieldTokens (field :: rest) nofun true [] stack tokens
    simpa [tokensOf, run_cons, step, Document.ofJson] using hfields

theorem run_itemTokens : ∀ (vs : List Json), vs ≠ [] → ∀ (mayClose : Bool) (done : List Document)
    (stack : List Frame) (tokens : List Token),
    (value mayClose (.items done :: stack)).run (itemTokens vs ++ .closeArray :: tokens) =
      (after (.arr (done.reverse ++ Document.ofItems vs)) stack).run tokens
  | [], hne, _, _, _, _ => absurd rfl hne
  | [v], _, mayClose, done, stack, tokens => by
    rw [itemTokens, run_tokensOf v mayClose (.items done :: stack), run_cons]
    simp [step, Document.ofItems]
  | v :: w :: rest, _, mayClose, done, stack, tokens => by
    have hmore := run_itemTokens (w :: rest) nofun false (.ofJson v :: done) stack tokens
    rw [itemTokens, List.append_assoc, run_tokensOf v mayClose (.items done :: stack),
      List.cons_append, run_cons]
    simpa [step, Document.ofItems] using hmore

theorem run_fieldTokens : ∀ (fields : List (String × Json)), fields ≠ [] → ∀ (mayClose : Bool)
    (done : List (Option String × Document)) (stack : List Frame) (tokens : List Token),
    (name mayClose done stack).run (fieldTokens fields ++ .closeObject :: tokens) =
      (after (.obj (done.reverse ++ Document.ofFields fields)) stack).run tokens
  | [], hne, _, _, _, _ => absurd rfl hne
  | [(key, v)], _, _, done, stack, tokens => by
    have hvalue := run_tokensOf v false (.fields done (some key) :: stack) (.closeObject :: tokens)
    simp [fieldTokens, run_cons, step, hvalue, Document.ofFields]
  | (key, v) :: w :: rest, _, _, done, stack, tokens => by
    have hmore := run_fieldTokens (w :: rest) nofun false ((some key, .ofJson v) :: done) stack
      tokens
    have hvalue := run_tokensOf v false (.fields done (some key) :: stack)
      (.comma :: (fieldTokens (w :: rest) ++ .closeObject :: tokens))
    simpa [fieldTokens, run_cons, step, hvalue, Document.ofFields] using hmore
end

end Reading

/-- The text of a value is read as the document of that value. -/
theorem Document.read?_render {v : Json} (hv : v.Whole) :
    Document.read? v.render = some (Document.ofJson v) := by
  have htokens : tokens? v.renderValue = some (tokensOf v) := by
    have h := hasTokens_renderValue hv Text.StopsAt.nil HasTokens.nil
    simpa using h.tokens?_eq
  have hrun := Reading.run_tokensOf v false [] []
  rw [List.append_nil] at hrun
  rw [Document.read?, render, String.toList_ofList, htokens]
  simp only [Option.bind_eq_bind, Option.bind_some, hrun]
  rfl

/-- And the value itself is read, if its fields are in order and it does not nest too deep. -/
theorem read?_render {v : Json} (hwhole : v.Whole) (hordered : v.Ordered)
    (hdepth : v.depth ≤ Document.maxDepth) : read? v.render = some v := by
  rw [read?, Document.read?_render hwhole, Option.bind_some, Document.value?,
    Document.depth_ofJson, if_pos hdepth, Document.toJson?_ofJson hordered]

end ChainCrawl.Json
