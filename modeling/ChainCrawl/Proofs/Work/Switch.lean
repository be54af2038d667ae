import ChainCrawl.Proofs.Work.Tables

namespace ChainCrawl

/-- What is sent to the stop switch of a loop. -/
structure Signals where
  /-- How the switch stands before any value has arrived. -/
  initial : Bool
  /-- The values in their order, each with the moment when it is sent. -/
  sent : List (Nat × Bool)
  /-- The moment when the last sender is gone, if there is one. -/
  gone : Option Nat
  ascending : (sent.map (·.1)).Pairwise (· ≤ ·)
  le_gone : ∀ x ∈ sent, ∀ g ∈ gone, x.1 ≤ g

/-- Where a loop stands in time. -/
structure Clock where
  /-- The time in milliseconds. -/
  moment : Nat
  /-- The number of values that have arrived. Of those that are sent at this very moment, some may
  be still to come. -/
  arrived : Nat
  /-- The number of values that had arrived when a pause last ended for one of them. -/
  seen : Nat
  deriving DecidableEq

/-- The request neither looks at the stop switch nor waits for it. -/
def SparesSwitch : WorkRequest → Prop
  | .stopRequested | .pause _ => False
  | _ => True

namespace Signals

variable (s : Signals)

/-- How the switch stands after a number of values. -/
def setting (arrived : Nat) : Bool :=
  ((s.sent.take arrived).getLast?.map (·.2)).getD s.initial

/-- The clock is right about the values. -/
structure Shows (c : Clock) : Prop where
  seen_le : c.seen ≤ c.arrived
  arrived_le : c.arrived ≤ s.sent.length
  past : ∀ x ∈ s.sent.take c.arrived, x.1 ≤ c.moment
  future : ∀ x ∈ s.sent.drop c.arrived, c.moment ≤ x.1

/-- How a pause ends. -/
inductive Pauses (millis : Nat) (before after : Clock) : PauseEnd → Prop where
  /-- Until its time has passed there was nothing to end it earlier. -/
  | elapsed (hmoment : after.moment = before.moment + millis) (hseen : after.seen = before.seen)
      (hquiet : ∀ x ∈ s.sent.drop before.seen, after.moment ≤ x.1)
      (hpresent : ∀ g ∈ s.gone, after.moment ≤ g) : Pauses millis before after .elapsed
  /-- The first value that it can end for has arrived, perhaps with others. -/
  | switched {x : Nat × Bool} (hnext : s.sent[before.seen]? = some x)
      (hmoment : after.moment = max before.moment x.1)
      (hintime : after.moment ≤ before.moment + millis)
      (harrived : before.seen < after.arrived) (hseen : after.seen = after.arrived) :
      Pauses millis before after .switched
  /-- There was no value left that it could end for, and nobody to send one. -/
  | abandoned {g : Nat} (hgone : g ∈ s.gone) (hmoment : after.moment = max before.moment g)
      (hintime : after.moment ≤ before.moment + millis)
      (hnone : before.seen = s.sent.length) (hseen : after.seen = before.seen) :
      Pauses millis before after .abandoned

/-- How time passes over an exchange. Reports and a yielded turn take none, and what the tables, the
adapters and the network are asked for takes any. -/
def Passes (before : Clock) (e : Exchange surroundings) (after : Clock) : Prop :=
  match e with
  | ⟨.stopRequested, answer⟩ => after = before ∧ answer = s.setting before.arrived
  | ⟨.pause millis, ending⟩ => s.Pauses millis before after ending
  | ⟨.sleep millis, _⟩ => after.moment = before.moment + millis ∧ after.seen = before.seen
  | ⟨.log _, _⟩ => after.moment = before.moment ∧ after.seen = before.seen
  | ⟨.yieldTurn, _⟩ => after.moment = before.moment ∧ after.seen = before.seen
  | _ => before.moment ≤ after.moment ∧ after.seen = before.seen

/-- Exchanges are made between two clocks, one after the other. -/
inductive Timed : Clock → List (Exchange surroundings) → Clock → Prop where
  | nil (c : Clock) : Timed c [] c
  | cons {start middle finish : Clock} {e : Exchange surroundings}
      {rest : List (Exchange surroundings)} (hpasses : s.Passes start e middle)
      (harrived : start.arrived ≤ middle.arrived) (hshows : s.Shows middle)
      (hrest : Timed middle rest finish) : Timed start (e :: rest) finish

variable {s} {start finish : Clock} {exchanges first rest : List (Exchange surroundings)}
  {e : Exchange surroundings}

theorem timed_nil_iff : s.Timed start [] finish ↔ finish = start := by
  constructor
  · intro h
    cases h
    rfl
  · rintro rfl
    exact .nil _

theorem timed_cons_iff :
    s.Timed start (e :: rest) finish ↔ ∃ middle, s.Passes start e middle ∧
      start.arrived ≤ middle.arrived ∧ s.Shows middle ∧ s.Timed middle rest finish := by
  constructor
  · intro h
    cases h with
    | cons hpasses harrived hshows hrest => exact ⟨_, hpasses, harrived, hshows, hrest⟩
  · rintro ⟨middle, hpasses, harrived, hshows, hrest⟩
    exact .cons hpasses harrived hshows hrest

theorem timed_append_iff :
    s.Timed start (first ++ rest) finish ↔
      ∃ middle, s.Timed start first middle ∧ s.Timed middle rest finish := by
  induction first generalizing start with
  | nil => simp [timed_nil_iff]
  | cons e first ih =>
    simp only [List.cons_append, timed_cons_iff, ih]
    constructor
    · rintro ⟨next, hpasses, harrived, hshows, middle, hfirst, hrest⟩
      exact ⟨middle, ⟨next, hpasses, harrived, hshows, hfirst⟩, hrest⟩
    · rintro ⟨middle, ⟨next, hpasses, harrived, hshows, hfirst⟩, hrest⟩
      exact ⟨next, hpasses, harrived, hshows, middle, hfirst, hrest⟩

theorem Pauses.moment_le {millis : Nat} {how : PauseEnd} (h : s.Pauses millis start finish how) :
    start.moment ≤ finish.moment := by
  cases h with
  | elapsed hmoment => omega
  | switched _ hmoment => omega
  | abandoned _ hmoment => omega

theorem Passes.moment_le (h : s.Passes start e finish) : start.moment ≤ finish.moment := by
  obtain ⟨r, answer⟩ := e
  cases r with
  | stopRequested =>
    obtain ⟨rfl, -⟩ := h
    exact Nat.le_refl _
  | pause => exact Pauses.moment_le h
  | sleep => exact h.1 ▸ Nat.le_add_right _ _
  | log | yieldTurn => exact Nat.le_of_eq h.1.symm
  | _ => exact h.1

theorem Passes.seen_eq (h : s.Passes start e finish) (hspares : SparesSwitch e.1) :
    finish.seen = start.seen := by
  obtain ⟨r, answer⟩ := e
  cases r with
  | stopRequested | pause => exact hspares.elim
  | _ => exact h.2

namespace Timed

theorem moment_le (h : s.Timed start exchanges finish) : start.moment ≤ finish.moment := by
  induction h with
  | nil => exact Nat.le_refl _
  | cons hpasses _ _ _ ih => exact Nat.le_trans hpasses.moment_le ih

theorem arrived_le (h : s.Timed start exchanges finish) : start.arrived ≤ finish.arrived := by
  induction h with
  | nil => exact Nat.le_refl _
  | cons _ harrived _ _ ih => exact Nat.le_trans harrived ih

theorem shows (h : s.Timed start exchanges finish) (hstart : s.Shows start) : s.Shows finish := by
  induction h with
  | nil => exact hstart
  | cons _ _ hshows _ ih => exact ih hshows

/-- Only a pause takes note of the values that have arrived. -/
theorem seen_eq (h : s.Timed start exchanges finish)
    (hspares : ∀ e ∈ exchanges, SparesSwitch e.1) : finish.seen = start.seen := by
  induction h with
  | nil => rfl
  | cons hpasses _ _ _ ih =>
    rw [ih fun e he => hspares e (List.mem_cons_of_mem _ he)]
    exact hpasses.seen_eq (hspares _ List.mem_cons_self)

end Timed

/-- A pause goes no further than to a moment by which a value that it can end for has been sent. -/
theorem Pauses.moment_le_of_due {millis due moment : Nat} {how : PauseEnd}
    (h : s.Pauses millis start finish how) (hseen : start.seen < due)
    (hdue : due ≤ s.sent.length) (hsent : ∀ x ∈ s.sent.take due, x.1 ≤ moment) :
    finish.moment ≤ max moment start.moment := by
  have hlt : start.seen < s.sent.length := by omega
  have hnext : s.sent[start.seen]? = some s.sent[start.seen] := List.getElem?_eq_getElem hlt
  have hmem : s.sent[start.seen] ∈ s.sent.take due :=
    List.mem_iff_getElem.2 ⟨start.seen, by rw [List.length_take]; omega, by simp⟩
  have hmoment := hsent _ hmem
  cases h with
  | elapsed _ _ hquiet =>
    have hdrop : s.sent[start.seen] ∈ s.sent.drop start.seen :=
      List.mem_iff_getElem.2 ⟨0, by rw [List.length_drop]; omega, by simp⟩
    have hle := hquiet _ hdrop
    omega
  | switched hfirst hfinish =>
    rw [hnext] at hfirst
    obtain rfl := Option.some.inj hfirst
    omega
  | abandoned _ _ _ hnone => omega

theorem getElem_mem_drop {i : Nat} (hlt : i < s.sent.length) : s.sent[i] ∈ s.sent.drop i := by
  rw [List.drop_eq_getElem_cons hlt]
  exact List.mem_cons_self

/-- No later value is sent earlier. -/
theorem getElem_le_of_mem_drop {i : Nat} (hlt : i < s.sent.length) {x : Nat × Bool}
    (hx : x ∈ s.sent.drop i) : s.sent[i].1 ≤ x.1 := by
  have hascending : (s.sent.drop i).Pairwise (·.1 ≤ ·.1) :=
    (List.pairwise_map.1 s.ascending).sublist (List.drop_sublist _ _)
  rw [List.drop_eq_getElem_cons hlt] at hx hascending
  obtain rfl | hx := List.mem_cons.1 hx
  · exact Nat.le_refl _
  · exact List.rel_of_pairwise_cons hascending hx

namespace Shows

variable {c : Clock} (h : s.Shows c)

include h

/-- The clock at the moment when the next value arrives. -/
theorem next (hlt : c.arrived < s.sent.length) :
    s.Shows ⟨s.sent[c.arrived].1, c.arrived + 1, c.seen⟩ := by
  have hfuture := h.future _ (getElem_mem_drop hlt)
  refine ⟨Nat.le_succ_of_le h.seen_le, hlt, fun y hy => ?_, fun y hy => ?_⟩
  · dsimp only at hy ⊢
    rw [List.take_succ_eq_append_getElem hlt] at hy
    obtain hy | hy := List.mem_append.1 hy
    · exact Nat.le_trans (h.past y hy) hfuture
    · obtain rfl := List.mem_singleton.1 hy
      exact Nat.le_refl _
  · refine getElem_le_of_mem_drop hlt ?_
    rw [List.drop_eq_getElem_cons hlt]
    exact List.mem_cons_of_mem _ hy

/-- Time can pass to a later moment before which no further value is sent. -/
theorem later {moment : Nat} (hle : c.moment ≤ moment)
    (hquiet : ∀ x ∈ s.sent.drop c.arrived, moment ≤ x.1) :
    s.Shows { c with moment := moment } :=
  ⟨h.seen_le, h.arrived_le, fun x hx => Nat.le_trans (h.past x hx) hle, hquiet⟩

/-- Time can pass to any later moment; the values that are sent before it arrive. -/
theorem exists_later {moment : Nat} (hle : c.moment ≤ moment) :
    ∃ later : Clock, later.moment = moment ∧ later.seen = c.seen ∧ c.arrived ≤ later.arrived ∧
      s.Shows later := by
  generalize hn : s.sent.length - c.arrived = n
  induction n generalizing c with
  | zero =>
    have hall := h.arrived_le
    have hnone : s.sent.drop c.arrived = [] := List.drop_eq_nil_of_le (by omega)
    exact ⟨{ c with moment := moment }, rfl, rfl, Nat.le_refl _, h.later hle (by simp [hnone])⟩
  | succ n ih =>
    have hlt : c.arrived < s.sent.length := by omega
    by_cases hnow : s.sent[c.arrived].1 ≤ moment
    · obtain ⟨later, hmoment, hseen, harrived, hshows⟩ :=
        ih (h.next hlt) hnow (by dsimp only; omega)
      exact ⟨later, hmoment, hseen, Nat.le_of_succ_le harrived, hshows⟩
    · refine ⟨{ c with moment := moment }, rfl, rfl, Nat.le_refl _, h.later hle fun x hx => ?_⟩
      have hnext := getElem_le_of_mem_drop hlt hx
      omega

/-- A pause can always end. -/
theorem exists_pauses (millis : Nat) :
    ∃ how later, s.Pauses millis c later how ∧ c.arrived ≤ later.arrived ∧ s.Shows later := by
  have hseen := h.seen_le
  have harrived := h.arrived_le
  by_cases hunseen : c.seen < c.arrived
  · have hlt : c.seen < s.sent.length := by omega
    have hpast : s.sent[c.seen].1 ≤ c.moment := h.past _
      (List.mem_iff_getElem.2 ⟨c.seen, by rw [List.length_take]; omega, by simp⟩)
    refine ⟨.switched, { c with seen := c.arrived }, ?_, Nat.le_refl _, ?_⟩
    · exact .switched (List.getElem?_eq_getElem hlt) (Nat.max_eq_left hpast).symm
        (Nat.le_add_right _ _) hunseen rfl
    · exact ⟨Nat.le_refl _, h.arrived_le, h.past, h.future⟩
  · have hsame : c.seen = c.arrived := by omega
    by_cases hquiet : ∀ x ∈ s.sent.drop c.seen, c.moment + millis ≤ x.1
    · by_cases hpresent : ∀ g ∈ s.gone, c.moment + millis ≤ g
      · exact ⟨.elapsed, { c with moment := c.moment + millis }, .elapsed rfl rfl hquiet hpresent,
          Nat.le_refl _, h.later (Nat.le_add_right _ _) (hsame ▸ hquiet)⟩
      · obtain ⟨g, hg, hearly⟩ : ∃ g ∈ s.gone, g < c.moment + millis := by
          simpa using hpresent
        have hall : c.seen = s.sent.length := by
          refine Nat.le_antisymm (by omega) (Nat.le_of_not_lt fun hlt => ?_)
          have hlate := hquiet _ (getElem_mem_drop hlt)
          have hsent := s.le_gone _ (List.getElem_mem hlt) g hg
          omega
        obtain ⟨later, hmoment, hnoted, hle, hshows⟩ :=
          h.exists_later (Nat.le_max_left c.moment g)
        exact ⟨.abandoned, later, .abandoned hg hmoment (by omega) hall hnoted, hle, hshows⟩
    · obtain ⟨x, hx, hearly⟩ : ∃ x ∈ s.sent.drop c.seen, x.1 < c.moment + millis := by
        simpa only [Classical.not_forall, exists_prop, Nat.not_le] using hquiet
      have hlt : c.arrived < s.sent.length := by
        have hlength := List.length_pos_of_mem hx
        rw [List.length_drop] at hlength
        omega
      have hfirst := getElem_le_of_mem_drop hlt (hsame ▸ hx)
      have hfuture := h.future _ (getElem_mem_drop hlt)
      have hshows := h.next hlt
      have hnext : s.sent[c.seen]? = some s.sent[c.arrived] := by
        rw [hsame]
        exact List.getElem?_eq_getElem hlt
      refine ⟨.switched, ⟨s.sent[c.arrived].1, c.arrived + 1, c.arrived + 1⟩, ?_,
        Nat.le_succ _, Nat.le_refl _, hshows.arrived_le, hshows.past, hshows.future⟩
      exact .switched hnext (Nat.max_eq_right hfuture).symm (by dsimp only; omega)
        (by dsimp only; omega) rfl

/-- Every request can be answered in time. -/
theorem exists_passes (t : Tables) (r : WorkRequest) :
    ∃ (a : r.Answer) (later : Clock), t.Allows ⟨r, a⟩ ∧ s.Passes c ⟨r, a⟩ later ∧
      c.arrived ≤ later.arrived ∧ s.Shows later := by
  obtain ⟨a, ha⟩ := t.exists_allowed r
  cases r with
  | stopRequested => exact ⟨s.setting c.arrived, c, trivial, ⟨rfl, rfl⟩, Nat.le_refl _, h⟩
  | pause millis =>
    obtain ⟨how, later, hpauses, hle, hshows⟩ := h.exists_pauses millis
    exact ⟨how, later, trivial, hpauses, hle, hshows⟩
  | sleep millis =>
    obtain ⟨later, hmoment, hseen, hle, hshows⟩ :=
      h.exists_later (Nat.le_add_right c.moment millis)
    exact ⟨(), later, trivial, ⟨hmoment, hseen⟩, hle, hshows⟩
  | log | yieldTurn => exact ⟨(), c, trivial, ⟨rfl, rfl⟩, Nat.le_refl _, h⟩
  | _ => exact ⟨a, c, ha, ⟨Nat.le_refl _, rfl⟩, Nat.le_refl _, h⟩

/-- Every procedure can be run to its end in time. -/
theorem exists_timed {α : Type} (p : Work α) (t : Tables) :
    ∃ exchanges a finish, p.Ends exchanges a ∧ t.Permits exchanges ∧
      s.Timed c exchanges finish := by
  induction p generalizing c t with
  | done a => exact ⟨[], a, c, .nil _, trivial, .nil _⟩
  | ask r next ih =>
    obtain ⟨answer, middle, hallows, hpasses, hle, hshows⟩ := h.exists_passes t r
    obtain ⟨exchanges, a, finish, hends, hpermits, htimed⟩ :=
      ih answer hshows (t.after ⟨r, answer⟩)
    exact ⟨⟨r, answer⟩ :: exchanges, a, finish, .ask hends, ⟨hallows, hpermits⟩,
      .cons hpasses hle hshows htimed⟩

end Shows

end Signals

end ChainCrawl
