namespace ChainCrawl

/-- The requests of a kind of procedure, and what answers each. -/
structure Signature where
  Request : Type
  Answer : Request → Type

/-- A procedure that ends with a value of type `α`. It is finished, or it makes one request and goes
on with the answer; so it can be run against any surroundings, one request at a time, and several
procedures can be run side by side. -/
inductive Proc (S : Signature) (α : Type) where
  | done (a : α)
  | ask (r : S.Request) (next : S.Answer r → Proc S α)

namespace Proc

variable {S : Signature} {α β γ : Type}

def bind : Proc S α → (α → Proc S β) → Proc S β
  | done a, f => f a
  | ask r next, f => ask r fun answer => (next answer).bind f

instance : Monad (Proc S) where
  pure := done
  bind := bind

def request (r : S.Request) : Proc S (S.Answer r) :=
  ask r done

@[simp]
theorem bind_done (a : α) (f : α → Proc S β) : (done a).bind f = f a := rfl

@[simp]
theorem bind_ask (r : S.Request) (next : S.Answer r → Proc S α) (f : α → Proc S β) :
    (ask r next).bind f = ask r fun answer => (next answer).bind f := rfl

theorem bind_done_right (p : Proc S α) : p.bind done = p := by
  induction p with
  | done a => rfl
  | ask r next ih => simp [ih]

theorem bind_assoc (p : Proc S α) (f : α → Proc S β) (g : β → Proc S γ) :
    (p.bind f).bind g = p.bind fun a => (f a).bind g := by
  induction p with
  | done a => rfl
  | ask r next ih => simp [ih]

instance : LawfulMonad (Proc S) :=
  LawfulMonad.mk' (Proc S) bind_done_right (fun _ _ => rfl) bind_assoc

/-- Runs a procedure, answering each request in a monad. -/
def interpret {m : Type → Type} [Monad m] (answer : (r : S.Request) → m (S.Answer r)) :
    Proc S α → m α
  | done a => pure a
  | ask r next => do (next (← answer r)).interpret answer

/-- Runs two procedures that can fail side by side, each making a request in turn. The first
failure ends both. -/
def both {ε : Type} : Proc S (Except ε α) → Proc S (Except ε β) → Proc S (Except ε (α × β))
  | done (.error e), _ => done (.error e)
  | done (.ok a), q => q.bind fun b => done (b.map (a, ·))
  | ask _ _, done (.error e) => done (.error e)
  | ask r next, done (.ok b) => (ask r next).bind fun a => done (a.map (·, b))
  | ask r next, ask r' next' =>
    ask r fun answer => ask r' fun answer' => both (next answer) (next' answer')

end Proc

end ChainCrawl
