import ChainCrawl.Proc.Basic

namespace ChainCrawl

/-- A request with its answer. -/
abbrev Exchange (S : Signature) := (r : S.Request) × S.Answer r

namespace Proc

variable {S : Signature} {α β : Type}

/-- A procedure makes these exchanges and then stands where another procedure begins. -/
inductive Leads : Proc S α → List (Exchange S) → Proc S α → Prop where
  | nil (p : Proc S α) : Leads p [] p
  | ask {r : S.Request} {next : S.Answer r → Proc S α} {a : S.Answer r}
      {exchanges : List (Exchange S)} {q : Proc S α} (rest : Leads (next a) exchanges q) :
      Leads (.ask r next) (⟨r, a⟩ :: exchanges) q

/-- A procedure makes these exchanges and ends with a value. -/
def Ends (p : Proc S α) (exchanges : List (Exchange S)) (a : α) : Prop :=
  p.Leads exchanges (.done a)

theorem leads_nil_iff {p q : Proc S α} : p.Leads [] q ↔ q = p := by
  constructor
  · intro h
    cases h
    rfl
  · rintro rfl
    exact .nil q

theorem leads_done_iff {a : α} {exchanges : List (Exchange S)} {q : Proc S α} :
    (done a).Leads exchanges q ↔ exchanges = [] ∧ q = done a := by
  constructor
  · intro h
    cases h
    exact ⟨rfl, rfl⟩
  · rintro ⟨rfl, rfl⟩
    exact .nil _

theorem leads_ask_cons_iff {r : S.Request} {next : S.Answer r → Proc S α} {e : Exchange S}
    {exchanges : List (Exchange S)} {q : Proc S α} :
    (ask r next).Leads (e :: exchanges) q ↔ ∃ a, e = ⟨r, a⟩ ∧ (next a).Leads exchanges q := by
  constructor
  · intro h
    cases h with
    | ask rest => exact ⟨_, rfl, rest⟩
  · rintro ⟨a, rfl, h⟩
    exact .ask h

theorem ends_done_iff {a b : α} {exchanges : List (Exchange S)} :
    (done a).Ends exchanges b ↔ exchanges = [] ∧ b = a := by
  simp [Ends, leads_done_iff]

theorem ends_ask_iff {r : S.Request} {next : S.Answer r → Proc S α}
    {exchanges : List (Exchange S)} {b : α} :
    (ask r next).Ends exchanges b ↔
      ∃ a rest, exchanges = ⟨r, a⟩ :: rest ∧ (next a).Ends rest b := by
  cases exchanges with
  | nil => simp [Ends, leads_nil_iff]
  | cons e rest =>
    simp only [Ends, leads_ask_cons_iff]
    constructor
    · rintro ⟨a, rfl, h⟩
      exact ⟨a, rest, rfl, h⟩
    · rintro ⟨a, rest', heq, h⟩
      obtain ⟨rfl, rfl⟩ := List.cons.inj heq
      exact ⟨a, rfl, h⟩

/-- A procedure that makes an exchange does not end without any. -/
theorem Leads.not_ends_nil {p q : Proc S α} {e : Exchange S} {rest : List (Exchange S)}
    (h : p.Leads (e :: rest) q) (a : α) : ¬ p.Ends [] a := by
  intro hends
  obtain rfl : done a = p := leads_nil_iff.1 hends
  cases (leads_done_iff.1 h).1

theorem Leads.append {p q t : Proc S α} {first rest : List (Exchange S)} (hfirst : p.Leads first q)
    (hrest : q.Leads rest t) : p.Leads (first ++ rest) t := by
  induction hfirst with
  | nil => exact hrest
  | ask _ ih => exact .ask (ih hrest)

/-- Where a procedure stands after its exchanges is settled by the exchanges. -/
theorem Leads.of_append {p q t : Proc S α} {first rest : List (Exchange S)}
    (hfirst : p.Leads first q) (h : p.Leads (first ++ rest) t) : q.Leads rest t := by
  induction hfirst with
  | nil => exact h
  | ask _ ih =>
    obtain ⟨a, heq, h⟩ := leads_ask_cons_iff.1 h
    cases heq
    exact ih h

/-- A run can be broken off after any of its exchanges. -/
theorem Leads.exists_of_append {p q : Proc S α} {first rest : List (Exchange S)}
    (h : p.Leads (first ++ rest) q) : ∃ middle, p.Leads first middle := by
  induction first generalizing p with
  | nil => exact ⟨p, .nil p⟩
  | cons e first ih =>
    rw [List.cons_append] at h
    cases h with
    | ask hrest =>
      obtain ⟨middle, hmiddle⟩ := ih hrest
      exact ⟨middle, .ask hmiddle⟩

theorem Leads.bind {p q : Proc S α} {exchanges : List (Exchange S)} (h : p.Leads exchanges q)
    (f : α → Proc S β) : (p.bind f).Leads exchanges (q.bind f) := by
  induction h with
  | nil => exact .nil _
  | ask _ ih => exact .ask ih

/-- A run of one procedure after another is a run of the first and then one of the second. -/
theorem ends_bind_iff {p : Proc S α} {f : α → Proc S β} {exchanges : List (Exchange S)} {b : β} :
    (p.bind f).Ends exchanges b ↔
      ∃ a first rest, exchanges = first ++ rest ∧ p.Ends first a ∧ (f a).Ends rest b := by
  constructor
  · intro h
    induction p generalizing exchanges with
    | done a => exact ⟨a, [], exchanges, rfl, .nil _, h⟩
    | ask r next ih =>
      obtain ⟨answer, rest, rfl, hnext⟩ := ends_ask_iff.1 h
      obtain ⟨a, first, last, rfl, hfirst, hlast⟩ := ih answer hnext
      exact ⟨a, ⟨r, answer⟩ :: first, last, rfl, .ask hfirst, hlast⟩
  · rintro ⟨a, first, rest, rfl, hfirst, hrest⟩
    exact (hfirst.bind f).append hrest

/-- A last step that only turns a value into another makes no exchange. -/
theorem ends_bind_done_iff {p : Proc S α} {g : α → β} {exchanges : List (Exchange S)} {b : β} :
    (p.bind fun a => done (g a)).Ends exchanges b ↔ ∃ a, p.Ends exchanges a ∧ b = g a := by
  rw [ends_bind_iff]
  constructor
  · rintro ⟨a, first, rest, rfl, hfirst, hrest⟩
    obtain ⟨rfl, rfl⟩ := ends_done_iff.1 hrest
    exact ⟨a, by simpa using hfirst, rfl⟩
  · rintro ⟨a, h, rfl⟩
    exact ⟨a, exchanges, [], (List.append_nil _).symm, h, .nil _⟩

/-- No premise on the procedure is needed: it is finite, so it ends however it is answered. -/
theorem exists_ends [∀ r : S.Request, Nonempty (S.Answer r)] (p : Proc S α) :
    ∃ exchanges a, p.Ends exchanges a := by
  induction p with
  | done a => exact ⟨[], a, .nil _⟩
  | ask r next ih =>
    obtain ⟨answer⟩ := (inferInstance : Nonempty (S.Answer r))
    obtain ⟨exchanges, a, h⟩ := ih answer
    exact ⟨⟨r, answer⟩ :: exchanges, a, .ask h⟩

/-- A run that breaks off can be carried on to an end. -/
theorem Leads.exists_ends [∀ r : S.Request, Nonempty (S.Answer r)] {p q : Proc S α}
    {exchanges : List (Exchange S)} (h : p.Leads exchanges q) :
    ∃ rest a, p.Ends (exchanges ++ rest) a := by
  obtain ⟨rest, a, hrest⟩ := q.exists_ends
  exact ⟨rest, a, h.append hrest⟩

section Failing

variable {ε : Type}

theorem ends_run_pure_iff {exchanges : List (Exchange S)} {a : α} {b : Except ε α} :
    (pure a : ExceptT ε (Proc S) α).run.Ends exchanges b ↔ exchanges = [] ∧ b = .ok a :=
  ends_done_iff

theorem ends_run_throw_iff {exchanges : List (Exchange S)} {e : ε} {b : Except ε α} :
    (throw e : ExceptT ε (Proc S) α).run.Ends exchanges b ↔ exchanges = [] ∧ b = .error e :=
  ends_done_iff

theorem ends_run_mk_pure_iff {exchanges : List (Exchange S)} {a b : Except ε α} :
    (ExceptT.mk (pure a) : ExceptT ε (Proc S) α).run.Ends exchanges b ↔ exchanges = [] ∧ b = a :=
  ends_done_iff

theorem ends_run_bind_iff {p : ExceptT ε (Proc S) α} {f : α → ExceptT ε (Proc S) β}
    {exchanges : List (Exchange S)} {b : Except ε β} :
    (p >>= f).run.Ends exchanges b ↔
      (∃ a first rest, exchanges = first ++ rest ∧ p.run.Ends first (.ok a) ∧
        (f a).run.Ends rest b) ∨
      ∃ e, p.run.Ends exchanges (.error e) ∧ b = .error e := by
  refine Iff.trans (ends_bind_iff (p := p.run)) ?_
  constructor
  · rintro ⟨a | a, first, rest, rfl, hfirst, hrest⟩
    · obtain ⟨rfl, rfl⟩ := ends_done_iff.1 hrest
      exact .inr ⟨a, by simpa using hfirst, rfl⟩
    · exact .inl ⟨a, first, rest, rfl, hfirst, hrest⟩
  · rintro (⟨a, first, rest, rfl, hfirst, hrest⟩ | ⟨e, hfirst, rfl⟩)
    · exact ⟨.ok a, first, rest, rfl, hfirst, hrest⟩
    · exact ⟨.error e, exchanges, [], by simp, hfirst, .nil _⟩

/-- The same of procedures that can fail, where the last step can fail, too. -/
theorem ends_run_bind_mk_pure_iff {p : ExceptT ε (Proc S) α} {g : α → Except ε β}
    {exchanges : List (Exchange S)} {b : Except ε β} :
    (p >>= fun a => ExceptT.mk (pure (g a))).run.Ends exchanges b ↔
      ∃ a, p.run.Ends exchanges a ∧ b = a.bind g := by
  rw [ends_run_bind_iff]
  constructor
  · rintro (⟨a, first, rest, rfl, hfirst, hrest⟩ | ⟨e, h, rfl⟩)
    · obtain ⟨rfl, rfl⟩ := ends_run_mk_pure_iff.1 hrest
      exact ⟨.ok a, by simpa using hfirst, rfl⟩
    · exact ⟨.error e, h, rfl⟩
  · rintro ⟨a | a, h, rfl⟩
    · exact .inr ⟨a, h, rfl⟩
    · exact .inl ⟨a, exchanges, [], by simp, h, .nil _⟩

theorem ends_run_bind_pure_iff {p : ExceptT ε (Proc S) α} {g : α → β}
    {exchanges : List (Exchange S)} {b : Except ε β} :
    (p >>= fun a => pure (g a)).run.Ends exchanges b ↔
      ∃ a, p.run.Ends exchanges a ∧ b = a.map g := by
  refine Iff.trans ends_run_bind_mk_pure_iff (exists_congr fun a => and_congr_right' ?_)
  cases a <;> rfl

/-- A failure of two procedures side by side is one that either comes to by itself, in the exchanges
of its own. -/
theorem exists_ends_of_ends_both_error {p : Proc S (Except ε α)} {q : Proc S (Except ε β)}
    {exchanges : List (Exchange S)} {e : ε} (h : (both p q).Ends exchanges (.error e)) :
    ∃ own : List (Exchange S), own.Sublist exchanges ∧
      (p.Ends own (.error e) ∨ q.Ends own (.error e)) := by
  fun_induction both p q generalizing exchanges with
  | case1 e' q =>
    obtain ⟨rfl, heq⟩ := ends_done_iff.1 h
    cases heq
    exact ⟨[], .refl _, .inl (.nil _)⟩
  | case2 a q =>
    obtain ⟨b, hq, heq⟩ := ends_bind_done_iff.1 h
    cases b with
    | ok b => cases heq
    | error e' =>
      cases heq
      exact ⟨exchanges, .refl _, .inr hq⟩
  | case3 r next e' =>
    obtain ⟨rfl, heq⟩ := ends_done_iff.1 h
    cases heq
    exact ⟨[], .refl _, .inr (.nil _)⟩
  | case4 r next b =>
    obtain ⟨a, hp, heq⟩ := ends_bind_done_iff.1 h
    cases a with
    | ok a => cases heq
    | error e' =>
      cases heq
      exact ⟨exchanges, .refl _, .inl hp⟩
  | case5 r next r' next' ih =>
    obtain ⟨answer, more, rfl, hmore⟩ := ends_ask_iff.1 h
    obtain ⟨answer', rest, rfl, hrest⟩ := ends_ask_iff.1 hmore
    obtain ⟨own, hsub, hp | hq⟩ := ih answer answer' hrest
    · exact ⟨⟨r, answer⟩ :: own, (hsub.cons _).cons_cons _, .inl (.ask hp)⟩
    · exact ⟨⟨r', answer'⟩ :: own, (hsub.cons_cons _).cons _, .inr (.ask hq)⟩

/-- A procedure that makes an exchange has failed by it, in a way that has a property. -/
def FailsAt (p : Proc S (Except ε α)) (x : Exchange S) (Fault : ε → Prop) : Prop :=
  ∀ own q, p.Leads (own ++ [x]) q → ∃ e, Fault e ∧ q = done (.error e)

section

variable {p : Proc S (Except ε α)} {q : Proc S (Except ε β)} {x y : Exchange S} {Fault : ε → Prop}

theorem failsAt_of_ends [∀ r : S.Request, Nonempty (S.Answer r)]
    (h : ∀ own rest b, p.Ends (own ++ x :: rest) b → rest = [] ∧ ∃ e, Fault e ∧ b = .error e) :
    p.FailsAt x Fault := by
  intro own middle hmiddle
  obtain ⟨rest, b, hrest⟩ := middle.exists_ends
  have hends := hmiddle.append hrest
  rw [List.append_assoc] at hends
  obtain ⟨rfl, e, he, rfl⟩ := h own rest b hends
  exact ⟨e, he, (leads_nil_iff.1 hrest).symm⟩

theorem FailsAt.eq_error (h : p.FailsAt x Fault) {before after : List (Exchange S)}
    {b : Except ε α} (hends : p.Ends (before ++ x :: after) b) :
    after = [] ∧ ∃ e, Fault e ∧ b = .error e := by
  have hall : p.Leads ((before ++ [x]) ++ after) (done b) := by
    rwa [List.append_assoc]
  obtain ⟨middle, hmiddle⟩ := hall.exists_of_append
  obtain ⟨e, he, rfl⟩ := h before middle hmiddle
  obtain ⟨hover, rfl⟩ := ends_done_iff.1 (hmiddle.of_append hall)
  exact ⟨hover, e, he, rfl⟩

theorem FailsAt.eq_error_of_mem (h : p.FailsAt x Fault) {exchanges : List (Exchange S)}
    {b : Except ε α} (hends : p.Ends exchanges b) (hx : x ∈ exchanges) :
    ∃ e, Fault e ∧ b = .error e := by
  obtain ⟨before, after, rfl⟩ := List.append_of_mem hx
  exact (h.eq_error hends).2

theorem FailsAt.mono {Fault' : ε → Prop} (h : p.FailsAt x Fault) (himp : ∀ e, Fault e → Fault' e) :
    p.FailsAt x Fault' := by
  intro own middle hmiddle
  obtain ⟨e, he, rfl⟩ := h own middle hmiddle
  exact ⟨e, himp e he, rfl⟩

theorem failsAt_done (a : Except ε α) : (done a : Proc S (Except ε α)).FailsAt x Fault := by
  intro own middle hmiddle
  exact absurd (leads_done_iff.1 hmiddle).1 (by simp)

/-- Where each of two procedures has failed by an exchange, so has the one after the other. -/
theorem FailsAt.bind [∀ r : S.Request, Nonempty (S.Answer r)] {first : ExceptT ε (Proc S) α}
    {f : α → ExceptT ε (Proc S) β} (hfirst : first.run.FailsAt x Fault)
    (hrest : ∀ a, (f a).run.FailsAt x Fault) : (first >>= f).run.FailsAt x Fault := by
  refine failsAt_of_ends fun own rest b hends => ?_
  obtain ⟨a, begun, last, heq, hbegun, hlast⟩ | ⟨e, hbegun, rfl⟩ := ends_run_bind_iff.1 hends
  · obtain ⟨_ | ⟨y, more⟩, rfl, hmore⟩ | ⟨more, rfl, rfl⟩ := List.append_eq_append_iff.1 heq
    · have hends : (f a).run.Ends ([] ++ x :: rest) b := hmore ▸ hlast
      exact (hrest a).eq_error hends
    · obtain ⟨rfl, -⟩ := List.cons.inj hmore
      obtain ⟨-, e, -, heq⟩ := hfirst.eq_error hbegun
      cases heq
    · exact (hrest a).eq_error hlast
  · obtain ⟨hover, e', he, heq⟩ := hfirst.eq_error hbegun
    cases heq
    exact ⟨hover, e, he, rfl⟩

theorem FailsAt.next {r : S.Request} {next : S.Answer r → Proc S (Except ε α)}
    (h : (ask r next).FailsAt x Fault) (answer : S.Answer r) : (next answer).FailsAt x Fault :=
  fun own middle hmiddle => h (⟨r, answer⟩ :: own) middle (.ask hmiddle)

theorem FailsAt.of_answer {r : S.Request} {next : S.Answer r → Proc S (Except ε α)}
    {answer : S.Answer r} (h : (ask r next).FailsAt ⟨r, answer⟩ Fault) :
    ∃ e, Fault e ∧ next answer = done (.error e) :=
  h [] _ (.ask (.nil _))

/-- Two procedures side by side of which either fails by an exchange fail in the same way, as far as
none of them has failed in another way before that. -/
theorem eq_error_of_ends_both (hp : p.FailsAt x Fault) (hq : q.FailsAt x Fault)
    {before after : List (Exchange S)} {b : Except ε (α × β)}
    (hfirst : ∀ own e, own.Sublist before → p.Ends own (.error e) ∨ q.Ends own (.error e) → Fault e)
    (h : (both p q).Ends (before ++ x :: after) b) : ∃ e, Fault e ∧ b = .error e := by
  fun_induction both p q generalizing before with
  | case1 | case3 => exact absurd (ends_done_iff.1 h).1 (by simp)
  | case2 a q =>
    obtain ⟨c, hends, rfl⟩ := ends_bind_done_iff.1 h
    obtain ⟨-, e, he, rfl⟩ := hq.eq_error hends
    exact ⟨e, he, rfl⟩
  | case4 r next c =>
    obtain ⟨a, hends, rfl⟩ := ends_bind_done_iff.1 h
    obtain ⟨-, e, he, rfl⟩ := hp.eq_error hends
    exact ⟨e, he, rfl⟩
  | case5 r next r' next' ih =>
    obtain ⟨answer, more, heq, hmore⟩ := ends_ask_iff.1 h
    obtain ⟨answer', rest, rfl, hrest⟩ := ends_ask_iff.1 hmore
    obtain _ | ⟨first, _ | ⟨second, before⟩⟩ := before
    · cases heq
      obtain ⟨e, he, hnext⟩ := hp.of_answer
      rw [hnext] at hrest
      exact ⟨e, he, (ends_done_iff.1 hrest).2⟩
    · cases heq
      obtain ⟨e, he, hnext⟩ := hq.of_answer
      rw [hnext] at hrest
      cases hother : next answer with
      | ask =>
        rw [hother] at hrest
        exact ⟨e, he, (ends_done_iff.1 hrest).2⟩
      | done a =>
        rw [hother] at hrest
        cases a with
        | ok a => exact ⟨e, he, (ends_done_iff.1 hrest).2⟩
        | error e' =>
          have hown : (ask r next).Ends [⟨r, answer⟩] (.error e') := .ask (hother ▸ .nil _)
          exact ⟨e', hfirst _ _ (.refl _) (.inl hown), (ends_done_iff.1 hrest).2⟩
    · cases heq
      refine ih answer answer' (hp.next answer) (hq.next answer') ?_ hrest
      rintro own e hsub (hown | hown)
      · exact hfirst _ _ ((hsub.cons _).cons_cons _) (.inl (.ask hown))
      · exact hfirst _ _ ((hsub.cons_cons _).cons _) (.inr (.ask hown))

/-- The second procedure is asked once more after the first has failed. -/
theorem ends_both_of_error {e : ε} {q' : Proc S (Except ε β)} (hp : p.Ends [x] (.error e))
    (hq : q.Leads [y] q') : (both p q).Ends [x, y] (.error e) := by
  cases hp with
  | @ask _ next _ _ _ hnext =>
    cases hq with
    | ask =>
      refine .ask (.ask ?_)
      rw [← leads_nil_iff.1 hnext]
      exact .nil _

end

end Failing

end Proc

end ChainCrawl
