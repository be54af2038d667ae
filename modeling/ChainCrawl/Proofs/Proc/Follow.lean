import ChainCrawl.Proofs.Proc.Run

namespace ChainCrawl.Proc

variable {S : Signature} {α β ε : Type}

/-- Where the first procedure comes to an end, the second comes to the same one; where the first
breaks off, the second is under way. And where the premise holds and all exchanges are admitted, the
first does come to an end, and its value is as told. -/
structure Follows (Admitted : Exchange S → Prop) (premise : Prop) (told : α → Prop)
    (p : ExceptT ε (OptionT (Proc S)) α) (q : ExceptT ε (Proc S) α) : Prop where
  ends : ∀ {exchanges b}, p.run.run.Ends exchanges (some b) → q.run.Ends exchanges b
  breaksOff : ∀ {exchanges}, p.run.run.Ends exchanges none → ∃ t, q.run.Leads exchanges t
  goesOn : premise → ∀ {exchanges b}, p.run.run.Ends exchanges b →
    (∀ e ∈ exchanges, Admitted e) → ∃ c, b = some c ∧ ∀ a, c = .ok a → told a

variable {Admitted : Exchange S → Prop} {premise : Prop} {told : α → Prop}

/-- A run of one procedure after another ends as the first, which broke off or failed, or goes on
with the second. -/
theorem ends_run_run_bind_iff {p : ExceptT ε (OptionT (Proc S)) α}
    {f : α → ExceptT ε (OptionT (Proc S)) β} {exchanges : List (Exchange S)}
    {b : Option (Except ε β)} :
    (p >>= f).run.run.Ends exchanges b ↔
      (∃ a first rest, exchanges = first ++ rest ∧ p.run.run.Ends first (some (.ok a)) ∧
        (f a).run.run.Ends rest b) ∨
      (∃ e, p.run.run.Ends exchanges (some (.error e)) ∧ b = some (.error e)) ∨
      p.run.run.Ends exchanges none ∧ b = none := by
  refine Iff.trans (ends_bind_iff (p := p.run.run)) ?_
  constructor
  · rintro ⟨a, first, rest, rfl, hfirst, hrest⟩
    cases a with
    | none =>
      obtain ⟨rfl, rfl⟩ := ends_done_iff.1 hrest
      exact .inr (.inr ⟨by simpa using hfirst, rfl⟩)
    | some a =>
      cases a with
      | error e =>
        obtain ⟨rfl, rfl⟩ := ends_done_iff.1 hrest
        exact .inr (.inl ⟨e, by simpa using hfirst, rfl⟩)
      | ok a => exact .inl ⟨a, first, rest, rfl, hfirst, hrest⟩
  · rintro (⟨a, first, rest, rfl, hfirst, hrest⟩ | ⟨e, hfirst, rfl⟩ | ⟨hfirst, rfl⟩)
    · exact ⟨some (.ok a), first, rest, rfl, hfirst, hrest⟩
    · exact ⟨some (.error e), exchanges, [], by simp, hfirst, .nil _⟩
    · exact ⟨none, exchanges, [], by simp, hfirst, .nil _⟩

namespace Follows

theorem bind {p : ExceptT ε (OptionT (Proc S)) α} {q : ExceptT ε (Proc S) α}
    {f : α → ExceptT ε (OptionT (Proc S)) β} {g : α → ExceptT ε (Proc S) β} {told' : β → Prop}
    (h : Follows Admitted premise told p q)
    (hnext : ∀ a, Follows Admitted (told a) told' (f a) (g a)) :
    Follows Admitted premise told' (p >>= f) (q >>= g) where
  ends hends := by
    refine ends_run_bind_iff.2 ?_
    obtain ⟨a, first, rest, rfl, hfirst, hrest⟩ | ⟨e, hfirst, heq⟩ | ⟨-, heq⟩ :=
      ends_run_run_bind_iff.1 hends
    · exact .inl ⟨a, first, rest, rfl, h.ends hfirst, (hnext a).ends hrest⟩
    · exact .inr ⟨e, h.ends hfirst, Option.some.inj heq⟩
    · cases heq
  breaksOff hends := by
    obtain ⟨a, first, rest, rfl, hfirst, hrest⟩ | ⟨e, -, heq⟩ | ⟨hfirst, -⟩ :=
      ends_run_run_bind_iff.1 hends
    · obtain ⟨t, ht⟩ := (hnext a).breaksOff hrest
      exact ⟨t, (Leads.bind (h.ends hfirst) _).append ht⟩
    · cases heq
    · obtain ⟨t, ht⟩ := h.breaksOff hfirst
      exact ⟨_, ht.bind _⟩
  goesOn hpremise := by
    intro exchanges b hends hadmitted
    obtain ⟨a, first, rest, rfl, hfirst, hrest⟩ | ⟨e, -, rfl⟩ | ⟨hfirst, -⟩ :=
      ends_run_run_bind_iff.1 hends
    · obtain ⟨c, hc, htold⟩ := h.goesOn hpremise hfirst fun e he =>
        hadmitted e (List.mem_append_left _ he)
      obtain rfl := Option.some.inj hc
      exact (hnext a).goesOn (htold a rfl) hrest fun e he =>
        hadmitted e (List.mem_append_right _ he)
    · exact ⟨.error e, rfl, fun a ha => by cases ha⟩
    · obtain ⟨c, hc, -⟩ := h.goesOn hpremise hfirst hadmitted
      cases hc

theorem pure {a : α} (h : premise → told a) :
    Follows (ε := ε) Admitted premise told (pure a) (pure a) where
  ends hends := by
    obtain ⟨rfl, heq⟩ := ends_done_iff.1 hends
    exact ends_run_pure_iff.2 ⟨rfl, Option.some.inj heq⟩
  breaksOff hends := by
    cases (ends_done_iff.1 hends).2
  goesOn hpremise := by
    intro exchanges b hends _
    obtain ⟨rfl, rfl⟩ := ends_done_iff.1 hends
    exact ⟨.ok a, rfl, fun a' ha' => Except.ok.inj ha' ▸ h hpremise⟩

/-- The premise may give way to one that implies it. -/
theorem of_imp {premise' : Prop} {p : ExceptT ε (OptionT (Proc S)) α} {q : ExceptT ε (Proc S) α}
    (h : Follows Admitted premise' told p q) (himp : premise → premise') :
    Follows Admitted premise told p q where
  ends := h.ends
  breaksOff := h.breaksOff
  goesOn hpremise := h.goesOn (himp hpremise)

end Follows

end ChainCrawl.Proc
