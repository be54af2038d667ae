import ChainCrawl.Proofs.Poller.Ownership
import Mathlib.Data.List.Induction
import Mathlib.Logic.Function.Iterate

namespace ChainCrawl

/-- What tells a loop all but the tables, from the exchanges that it has made. -/
abbrev Teller := List (Exchange surroundings) → (r : WorkRequest) → r.Answer

/-- The answer of tables that do not fail; all but the cursors and the records is answered as
told. -/
def Tables.answer (t : Tables) (told : (r : WorkRequest) → r.Answer) :
    (r : WorkRequest) → r.Answer
  | .loadCursor key network => .ok (t.cursors.find? key network)
  | .saveCursor _ => .ok ()
  | .addRecords _ => .ok ()
  | r => told r

namespace Poller

section Stored

variable {loop other : Poller} {t t' : Tables} {r : WorkRequest}

/-- Of the tables, only the stored cursor of a source is seen by what concerns no other one. -/
theorem answer_congr (hr : r.Concerns loop.source) (h : loop.storedIn t = loop.storedIn t')
    (told : (r : WorkRequest) → r.Answer) : t.answer told r = t'.answer told r := by
  cases r with
  | loadCursor key network =>
    obtain ⟨rfl, rfl⟩ := hr
    exact congrArg Except.ok h
  | _ => rfl

theorem tellsOwn_answer (hr : r.Concerns loop.source) (t : Tables)
    (told : (r : WorkRequest) → r.Answer) : TellsOwn loop.source ⟨r, t.answer told r⟩ := by
  cases r with
  | loadCursor key network =>
    obtain ⟨rfl, rfl⟩ := hr
    cases hfind : t.cursors.find? loop.source.key loop.source.network with
    | none =>
      rw [Tables.answer, hfind]
      trivial
    | some c =>
      rw [Tables.answer, hfind]
      exact CursorTable.source_of_find? hfind
  | _ => trivial

/-- What is stored for a source after an exchange depends on nothing else that was stored. -/
theorem storedIn_after_congr (h : loop.storedIn t = loop.storedIn t')
    (e : Exchange surroundings) : loop.storedIn (t.after e) = loop.storedIn (t'.after e) := by
  by_cases hsave : ∃ c u, e = ⟨.saveCursor c, .ok u⟩
  · obtain ⟨c, u, rfl⟩ := hsave
    simp only [storedIn, Tables.after, CursorTable.find?_put] at h ⊢
    rw [h]
  · have hcursors (t : Tables) : (t.after e).cursors = t.cursors :=
      Tables.cursors_after fun c u heq => hsave ⟨c, u, heq⟩
    rw [storedIn, hcursors, storedIn, hcursors]
    exact h

/-- A request that concerns another source leaves the cursor of a source alone. -/
theorem storedIn_after_of_ne (hr : r.Concerns other.source)
    (hapart : loop.source.key ≠ other.source.key ∨ loop.source.network ≠ other.source.network)
    (t : Tables) (answer : r.Answer) : loop.storedIn (t.after ⟨r, answer⟩) = loop.storedIn t := by
  obtain ⟨c, u, heq⟩ | hcursors := t.save_or_cursors_after ⟨r, answer⟩
  · cases heq
    obtain ⟨hkey, hnetwork⟩ : c.IsOf other.source := hr
    have hne : ¬ (c.sourceKey = loop.source.key ∧ c.network = loop.source.network) := by
      rintro ⟨hkey', hnetwork'⟩
      obtain hapart | hapart := hapart
      · exact hapart (hkey'.symm.trans hkey)
      · exact hapart (hnetwork'.symm.trans hnetwork)
    simp only [storedIn, Tables.after, CursorTable.find?_put, if_neg hne]
  · rw [storedIn, hcursors, storedIn]

end Stored

/-- A loop under way: what is left of its cycle, the exchanges that it has made, and what its cycles
have come to. -/
structure Standing where
  pending : Work (Option CycleEnd)
  exchanges : List (Exchange surroundings)
  outcomes : List CycleEnd

variable (loop : Poller) (tell : Teller)

/-- The loop is about to begin its first cycle. -/
def begun : Standing :=
  ⟨loop.cycleInWords, [], []⟩

/-- One turn of a loop: it makes its next exchange with the tables, or notes what its cycle has come
to and begins another one. A loop that has broken off does nothing more. -/
def turn : Tables × Standing → Tables × Standing
  | (t, ⟨Proc.ask r next, exchanges, outcomes⟩) =>
    let answer := t.answer (tell exchanges) r
    (t.after ⟨r, answer⟩, ⟨next answer, exchanges ++ [⟨r, answer⟩], outcomes⟩)
  | (t, ⟨Proc.done (some outcome), exchanges, outcomes⟩) =>
    (t, ⟨loop.cycleInWords, exchanges, outcomes ++ [outcome]⟩)
  | (t, ⟨Proc.done none, exchanges, outcomes⟩) => (t, ⟨Proc.done none, exchanges, outcomes⟩)

/-- The loop by itself after a number of turns. -/
def alone (t : Tables) (turns : Nat) : Tables × Standing :=
  (loop.turn tell)^[turns] (t, loop.begun)

/-- What is left of the loop's cycle concerns the cursor of its own source only. -/
def UnderWay (s : Standing) : Prop :=
  KeepsTo loop.source (fun _ => True) s.pending

variable {loop tell} {s : Standing} {t t' : Tables}

theorem UnderWay.turn (h : loop.UnderWay s) (tell : Teller) (t : Tables) :
    loop.UnderWay (loop.turn tell (t, s)).2 := by
  obtain ⟨pending, exchanges, outcomes⟩ := s
  cases pending with
  | done b =>
    cases b with
    | none => exact trivial
    | some outcome => exact keepsTo_cycle
  | ask r next => exact h.2 _ (tellsOwn_answer h.1 t _)

/-- Of the tables a turn sees no more than the cursor of the loop's source. -/
theorem turn_congr (h : loop.UnderWay s) (hstored : loop.storedIn t = loop.storedIn t')
    (tell : Teller) :
    (loop.turn tell (t, s)).2 = (loop.turn tell (t', s)).2 ∧
      loop.storedIn (loop.turn tell (t, s)).1 = loop.storedIn (loop.turn tell (t', s)).1 := by
  obtain ⟨pending, exchanges, outcomes⟩ := s
  cases pending with
  | done b => cases b <;> exact ⟨rfl, hstored⟩
  | ask r next =>
    have hanswer := answer_congr h.1 hstored (tell exchanges)
    simp only [Poller.turn, hanswer, true_and]
    exact storedIn_after_congr hstored _

/-- A turn of a loop leaves the cursors of other sources alone. -/
theorem storedIn_turn_of_ne {other : Poller} (h : other.UnderWay s)
    (hapart : loop.source.key ≠ other.source.key ∨ loop.source.network ≠ other.source.network)
    (tell : Teller) (t : Tables) :
    loop.storedIn (other.turn tell (t, s)).1 = loop.storedIn t := by
  obtain ⟨pending, exchanges, outcomes⟩ := s
  cases pending with
  | done b => cases b <;> rfl
  | ask r next => exact storedIn_after_of_ne h.1 hapart t _

end Poller

section SideBySide

open Poller

variable {ι : Type} [DecidableEq ι] (loops : ι → Poller) (tell : ι → Teller)

/-- One of the loops takes a turn on the shared tables. -/
def takeTurn (x : Tables × (ι → Standing)) (i : ι) : Tables × (ι → Standing) :=
  let next := (loops i).turn (tell i) (x.1, x.2 i)
  (next.1, Function.update x.2 i next.2)

/-- The loops side by side, after turns of the ones that a schedule names. -/
def sideBySide (t : Tables) (schedule : List ι) : Tables × (ι → Standing) :=
  schedule.foldl (takeTurn loops tell) (t, fun i => (loops i).begun)

variable {loops} {x : Tables × (ι → Standing)} {i j : ι}

theorem tables_takeTurn :
    (takeTurn loops tell x i).1 = ((loops i).turn (tell i) (x.1, x.2 i)).1 := rfl

theorem takeTurn_self :
    (takeTurn loops tell x i).2 i = ((loops i).turn (tell i) (x.1, x.2 i)).2 :=
  Function.update_self i _ x.2

theorem takeTurn_of_ne (h : i ≠ j) : (takeTurn loops tell x j).2 i = x.2 i :=
  Function.update_of_ne h _ x.2

theorem sideBySide_concat (t : Tables) (schedule : List ι) (i : ι) :
    sideBySide loops tell t (schedule ++ [i]) =
      takeTurn loops tell (sideBySide loops tell t schedule) i := by
  simp [sideBySide]

theorem underWay_sideBySide (t : Tables) (schedule : List ι) (i : ι) :
    (loops i).UnderWay ((sideBySide loops tell t schedule).2 i) := by
  induction schedule using List.reverseRecOn with
  | nil => exact keepsTo_cycle
  | append_singleton schedule j ih =>
    rw [sideBySide_concat]
    by_cases hij : i = j
    · subst hij
      rw [takeTurn_self]
      exact ih.turn _ _
    · rwa [takeTurn_of_ne tell hij]

/-- Loops of different sources that take turns in any order, one exchange at a time, over shared
tables that do not fail, each go as they go alone. No premise on the routers is needed, so they may
be one, and none on the tables at the start. -/
theorem goes_as_alone
    (hapart : ∀ i j, i ≠ j → (loops i).source.key ≠ (loops j).source.key ∨
      (loops i).source.network ≠ (loops j).source.network)
    (t : Tables) (schedule : List ι) (i : ι) :
    (sideBySide loops tell t schedule).2 i =
        ((loops i).alone (tell i) t (schedule.count i)).2 ∧
      (loops i).storedIn (sideBySide loops tell t schedule).1 =
        (loops i).storedIn ((loops i).alone (tell i) t (schedule.count i)).1 := by
  induction schedule using List.reverseRecOn with
  | nil => exact ⟨rfl, rfl⟩
  | append_singleton schedule j ih =>
    obtain ⟨hstanding, hstored⟩ := ih
    have hunderWay : ∀ j, (loops j).UnderWay ((sideBySide loops tell t schedule).2 j) :=
      underWay_sideBySide tell t schedule
    rw [sideBySide_concat, tables_takeTurn, List.count_append]
    by_cases hij : i = j
    · subst hij
      have hcount : schedule.count i + [i].count i = (schedule.count i).succ := by simp
      rw [hcount, alone, Function.iterate_succ_apply', ← alone, takeTurn_self]
      have hcongr := turn_congr (hunderWay i) hstored (tell i)
      rw [hstanding] at hcongr ⊢
      exact hcongr
    · have hcount : schedule.count i + [j].count i = schedule.count i := by simp [Ne.symm hij]
      rw [hcount, takeTurn_of_ne tell hij]
      have hturn := storedIn_turn_of_ne (hunderWay j) (hapart i j hij) (tell j)
        (sideBySide loops tell t schedule).1
      exact ⟨hstanding, hturn.trans hstored⟩

def twoSources : Bool → Poller
  | false => .of .sample .sample
  | true => .of { Source.sample with key := "other", step := 4 } .sample

/-- A network that grows by a block with each exchange, and on which nothing happens. -/
def quietTeller : Teller
  | exchanges, .headHeight _ => .ok (121 + exchanges.length)
  | _, .fetch _ _ => .ok []
  | _, .recordOf _ _ _ | _, .profile _ _ => .error (.unavailable "")
  | _, .loadCursor _ _ | _, .saveCursor _ | _, .addRecords _ | _, .upsertVisit _ _
  | _, .visitsAfter _ _ _ | _, .dropVisitsBelow _ | _, .removeVisit _ | _, .visitScore _
  | _, .visitCount => .error (.database "")
  | _, .now => .epoch
  | _, .ticks => (0 : Nat)
  | _, .sleep _ | _, .log _ | _, .yieldTurn => ()
  | _, .stopRequested => false
  | _, .pause _ => .elapsed

/-- The second loop saves its cursor while the first is in the midst of its cycle. -/
theorem goes_as_alone_sample :
    (∀ i j, i ≠ j → (twoSources i).source.key ≠ (twoSources j).source.key ∨
      (twoSources i).source.network ≠ (twoSources j).source.network) ∧
      ∃ schedule, schedule = [false, true, false, true, true, true, true, false, false, false] ∧
        ((sideBySide twoSources (fun _ => quietTeller) {} schedule).2 false).outcomes =
          [.advanced ⟨100, 109⟩ 0 true] ∧
        ((sideBySide twoSources (fun _ => quietTeller) {} schedule).2 true).outcomes =
          [.advanced ⟨100, 104⟩ 0 false] ∧
        ∀ i, (sideBySide twoSources (fun _ => quietTeller) {} schedule).2 i =
            ((twoSources i).alone quietTeller {} (schedule.count i)).2 ∧
          (twoSources i).storedIn
              (sideBySide twoSources (fun _ => quietTeller) {} schedule).1 =
            (twoSources i).storedIn
              ((twoSources i).alone quietTeller {} (schedule.count i)).1 := by
  have hapart : ∀ i j, i ≠ j → (twoSources i).source.key ≠ (twoSources j).source.key ∨
      (twoSources i).source.network ≠ (twoSources j).source.network := by decide
  exact ⟨hapart, _, rfl, rfl, rfl, goes_as_alone (fun _ => quietTeller) hapart {} _⟩

end SideBySide

end ChainCrawl
