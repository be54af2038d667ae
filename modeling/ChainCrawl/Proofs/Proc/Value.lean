import ChainCrawl.Proofs.Proc.Run

namespace ChainCrawl.Proc

variable {S : Signature} {α β ε : Type}

/-- One procedure after another is interpreted as the first and then the second. -/
theorem interpret_bind {m : Type → Type} [Monad m] [LawfulMonad m]
    (answer : (r : S.Request) → m (S.Answer r)) (p : Proc S α) (f : α → Proc S β) :
    (p.bind f).interpret answer = p.interpret answer >>= fun a => (f a).interpret answer := by
  induction p with
  | done a => simp [interpret]
  | ask r next ih => simp [interpret, ih]

/-- The value of a procedure whose requests are answered by a function. -/
def value (answer : (r : S.Request) → S.Answer r) (p : Proc S α) : α :=
  Id.run (p.interpret fun r => (pure (answer r) : Id (S.Answer r)))

variable (answer : (r : S.Request) → S.Answer r)

@[simp]
theorem value_bind (p : Proc S α) (f : α → Proc S β) :
    (p.bind f).value answer = (f (p.value answer)).value answer := by
  induction p with
  | done a => rfl
  | ask r next ih => exact ih (answer r)

/-- A procedure has a run with these answers. -/
theorem exists_ends_of_answers (p : Proc S α) :
    ∃ exchanges, p.Ends exchanges (p.value answer) ∧ ∀ x ∈ exchanges, x.2 = answer x.1 := by
  induction p with
  | done a => exact ⟨[], .nil _, by simp⟩
  | ask r next ih =>
    obtain ⟨exchanges, hends, hanswers⟩ := ih (answer r)
    exact ⟨⟨r, answer r⟩ :: exchanges, .ask hends, by simpa using hanswers⟩

/-- A run with these answers is the only one. -/
theorem eq_value_of_ends {p : Proc S α} {exchanges : List (Exchange S)} {a : α}
    (h : p.Ends exchanges a) (hanswers : ∀ x ∈ exchanges, x.2 = answer x.1) :
    a = p.value answer := by
  induction p generalizing exchanges with
  | done b => exact (ends_done_iff.1 h).2
  | ask r next ih =>
    obtain ⟨answered, rest, rfl, hrest⟩ := ends_ask_iff.1 h
    obtain rfl : answered = answer r := hanswers _ List.mem_cons_self
    exact ih _ hrest fun x hx => hanswers x (List.mem_cons_of_mem _ hx)

/-- Two procedures side by side come to both values, or to a failure that one of them comes to by
itself. -/
theorem value_both (p : Proc S (Except ε α)) (q : Proc S (Except ε β)) :
    (∃ a b, p.value answer = .ok a ∧ q.value answer = .ok b ∧
      (both p q).value answer = .ok (a, b)) ∨
      ∃ e, (p.value answer = .error e ∨ q.value answer = .error e) ∧
        (both p q).value answer = .error e := by
  fun_induction both p q with
  | case1 e q => exact .inr ⟨e, .inl rfl, rfl⟩
  | case2 a q =>
    rw [value_bind]
    cases hq : q.value answer with
    | error e => exact .inr ⟨e, .inr rfl, rfl⟩
    | ok b => exact .inl ⟨a, b, rfl, rfl, rfl⟩
  | case3 r next e => exact .inr ⟨e, .inr rfl, rfl⟩
  | case4 r next b =>
    rw [value_bind]
    cases hp : (ask r next).value answer with
    | error e => exact .inr ⟨e, .inl rfl, rfl⟩
    | ok a => exact .inl ⟨a, b, rfl, rfl, rfl⟩
  | case5 r next r' next' ih => exact ih (answer r) (answer r')

variable {answer}

theorem value_run_bind_of_ok {p : ExceptT ε (Proc S) α} {f : α → ExceptT ε (Proc S) β} {a : α}
    (h : p.run.value answer = .ok a) :
    (p >>= f).run.value answer = (f a).run.value answer := by
  refine Eq.trans (value_bind answer p.run _) ?_
  rw [h]
  rfl

theorem value_run_bind_of_error {p : ExceptT ε (Proc S) α} {f : α → ExceptT ε (Proc S) β} {e : ε}
    (h : p.run.value answer = .error e) : (p >>= f).run.value answer = .error e := by
  refine Eq.trans (value_bind answer p.run _) ?_
  rw [h]
  rfl

theorem value_both_ok {p : Proc S (Except ε α)} {q : Proc S (Except ε β)} {a : α} {b : β}
    (hp : p.value answer = .ok a) (hq : q.value answer = .ok b) :
    (both p q).value answer = .ok (a, b) := by
  obtain ⟨a', b', hp', hq', hboth⟩ | ⟨e, he, -⟩ := value_both answer p q
  · rw [hp] at hp'
    rw [hq] at hq'
    cases hp'
    cases hq'
    exact hboth
  · rw [hp, hq] at he
    obtain he | he := he <;> cases he

/-- A failure that each of two procedures can only come to is that of both. -/
theorem value_both_error {p : Proc S (Except ε α)} {q : Proc S (Except ε β)} {e : ε}
    (h : p.value answer = .error e ∨ q.value answer = .error e)
    (hp : ∀ e', p.value answer = .error e' → e' = e)
    (hq : ∀ e', q.value answer = .error e' → e' = e) : (both p q).value answer = .error e := by
  obtain ⟨a, b, hp', hq', -⟩ | ⟨e', he', hboth⟩ := value_both answer p q
  · rw [hp', hq'] at h
    obtain h | h := h <;> cases h
  · rw [hboth]
    obtain he' | he' := he'
    · rw [hp e' he']
    · rw [hq e' he']

end ChainCrawl.Proc
