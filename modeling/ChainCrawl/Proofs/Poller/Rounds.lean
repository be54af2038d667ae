import ChainCrawl.Poller.Loop
import ChainCrawl.Proofs.Poller.Outcome
import ChainCrawl.Proofs.Poller.Words
import ChainCrawl.Proofs.Work.Switch
import Mathlib.Data.List.Chain

namespace ChainCrawl

open Proc
open Word (minInt64 maxInt64)

theorem CycleEnd.goesOn_iff {outcome : CycleEnd} :
    outcome.goesOn ↔ ∃ window records, outcome = .advanced window records false := by
  cases outcome with
  | advanced window records caughtUp => cases caughtUp <;> simp [CycleEnd.goesOn]
  | waiting | failed | misconfigured => simp [CycleEnd.goesOn]

/-- A cycle of a running loop, with the clocks between which it was made. -/
structure Turn where
  start : Clock
  exchanges : List (Exchange surroundings)
  /-- What the cycle came to, unless it broke off. -/
  outcome : Option CycleEnd
  finish : Clock

def Turn.cycle (x : Turn) : List (Exchange surroundings) × Option CycleEnd :=
  (x.exchanges, x.outcome)

/-- When the last of turns is over; without turns, the given moment. -/
def lastMoment (start : Nat) (turns : List Turn) : Nat :=
  (turns.getLast?.map (·.finish.moment)).getD start

namespace Poller

variable (loop : Poller)

/-- What a loop does between a cycle and the look at the stop switch before the next one; it does
not come to that look if its pause was given up. -/
inductive Between (outcome : CycleEnd) : List (Exchange surroundings) → (comesBack : Bool) → Prop
    where
  | yields (entry : LogEntry) (hnone : loop.pauseAfter outcome = 0) :
      Between outcome [⟨.log entry, ()⟩, ⟨.yieldTurn, ()⟩] true
  | pauses (entry : LogEntry) (hsome : loop.pauseAfter outcome ≠ 0) (how : PauseEnd) :
      Between outcome [⟨.log entry, ()⟩, ⟨.pause (loop.pauseAfter outcome), how⟩]
        (how ≠ .abandoned)

/-- What a loop does after its last cycle, and how it ends. -/
inductive Closing : Option CycleEnd → List (Exchange surroundings) → LoopEnd → Prop where
  | overflowed : Closing none [] .overflowed
  | misconfigured : Closing (some .misconfigured) [] .misconfigured
  | abandoned {outcome : CycleEnd} {closing : List (Exchange surroundings)}
      (hbetween : loop.Between outcome closing false) : Closing (some outcome) closing .stopped

/-- How rounds go. -/
inductive Rounds : (limit : Nat) → List (Exchange surroundings) → LoopEnd → Prop where
  | running : Rounds 0 [] .running
  | stopped (n : Nat) : Rounds (n + 1) [⟨.stopRequested, true⟩] .stopped
  | last {cycling closing : List (Exchange surroundings)} {b : Option CycleEnd} {ending : LoopEnd}
      (n : Nat) (hcycle : loop.cycleInWords.Ends cycling b)
      (hclosing : loop.Closing b closing ending) :
      Rounds (n + 1) (⟨.stopRequested, false⟩ :: (cycling ++ closing)) ending
  | next {n : Nat} {cycling between rest : List (Exchange surroundings)} {outcome : CycleEnd}
      {ending : LoopEnd} (hcycle : loop.cycleInWords.Ends cycling (some outcome))
      (hbetween : loop.Between outcome between true) (hrest : Rounds n rest ending) :
      Rounds (n + 1) (⟨.stopRequested, false⟩ :: (cycling ++ (between ++ rest))) ending

variable {loop} {exchanges : List (Exchange surroundings)} {outcome : CycleEnd} {ending : LoopEnd}

theorem ends_reportOutcome {u : Unit} (hne : outcome ≠ .misconfigured)
    (h : (loop.reportOutcome outcome).Ends exchanges u) :
    ∃ entry, exchanges = [⟨.log entry, ()⟩] := by
  cases outcome with
  | advanced | waiting => exact ⟨_, Work.ends_report_iff.1 h⟩
  | failed cause =>
    dsimp only [reportOutcome] at h
    split at h
    · exact ⟨_, Work.ends_report_iff.1 h⟩
    · exact ⟨_, Work.ends_report_iff.1 h⟩
  | misconfigured => exact absurd rfl hne

theorem rounds_of_ends_rounds {limit : Nat} (h : (loop.rounds limit).Ends exchanges ending) :
    loop.Rounds limit exchanges ending := by
  induction limit generalizing exchanges with
  | zero =>
    obtain ⟨rfl, rfl⟩ := ends_done_iff.1 h
    exact .running
  | succ n ih =>
    unfold rounds at h
    obtain ⟨stopping, first, more, rfl, hfirst, hmore⟩ := ends_bind_iff.1 h
    obtain rfl := Work.ends_call_iff.1 hfirst
    cases stopping with
    | true =>
      obtain ⟨rfl, rfl⟩ := ends_done_iff.1 hmore
      exact .stopped n
    | false =>
      obtain ⟨b, cycling, rest, rfl, hcycle, hrest⟩ := ends_bind_iff.1 hmore
      cases b with
      | none =>
        obtain ⟨rfl, rfl⟩ := ends_done_iff.1 hrest
        have hround := Rounds.last n hcycle .overflowed
        exact hround
      | some outcome =>
        dsimp only at hrest
        split at hrest
        · rename_i hmisconfigured
          subst hmisconfigured
          obtain ⟨rfl, rfl⟩ := ends_done_iff.1 hrest
          have hround := Rounds.last n hcycle .misconfigured
          exact hround
        · rename_i hne
          obtain ⟨u, reporting, later, rfl, hreporting, hlater⟩ := ends_bind_iff.1 hrest
          obtain ⟨entry, rfl⟩ := ends_reportOutcome hne hreporting
          split at hlater
          · rename_i hnone
            obtain ⟨u, yielding, last, rfl, hyielding, hlast⟩ := ends_bind_iff.1 hlater
            obtain rfl := Work.ends_call_iff.1 hyielding
            have hround := Rounds.next hcycle (.yields entry hnone) (ih hlast)
            exact hround
          · rename_i hsome
            obtain ⟨how, pausing, last, rfl, hpausing, hlast⟩ := ends_bind_iff.1 hlater
            obtain rfl := Work.ends_call_iff.1 hpausing
            have hbetween := Between.pauses entry hsome how
            cases how with
            | abandoned =>
              obtain ⟨rfl, rfl⟩ := ends_done_iff.1 hlast
              have hround := Rounds.last n hcycle (.abandoned hbetween)
              exact hround
            | elapsed | switched =>
              have hround := Rounds.next hcycle hbetween (ih hlast)
              exact hround

theorem sparesSwitch_of_approach {stored : Option Cursor} {c : Cursor}
    (h : loop.Approach stored c exchanges) : ∀ e ∈ exchanges, SparesSwitch e.1 := by
  cases h with
  | atOnce => simp [loading, SparesSwitch]
  | afterPause => simp [loading, looking, SparesSwitch]

theorem sparesSwitch_of_givingUp {c : Cursor} {cause : Failure}
    (h : loop.GivingUp c cause exchanges) : ∀ e ∈ exchanges, SparesSwitch e.1 := by
  intro e he
  obtain hsave | ⟨entry, hlog⟩ := request_of_givingUp h e he
  · rw [hsave]
    trivial
  · rw [hlog]
    trivial

theorem sparesSwitch_of_ends_intent {b : Fallible Intent}
    (h : loop.intent.run.Ends exchanges b) : ∀ e ∈ exchanges, SparesSwitch e.1 := by
  cases ends_intent_iff.1 h with
  | unloaded | crossed => simp [loading, SparesSwitch]
  | unseen e happroach hclosing =>
    have hlooking : SparesSwitch (loop.looking (.error e)).1 := trivial
    exact List.forall_mem_append.2 ⟨sparesSwitch_of_approach happroach,
      List.forall_mem_cons.2 ⟨hlooking, sparesSwitch_of_givingUp hclosing⟩⟩
  | ready head happroach =>
    have hlooking : SparesSwitch (loop.looking (.ok head)).1 := trivial
    exact List.forall_mem_append.2 ⟨sparesSwitch_of_approach happroach,
      List.forall_mem_singleton.2 hlooking⟩
  | early => simp [loading, looking, SparesSwitch]

theorem sparesSwitch_of_ends_deliver {router : Router} {inquiry : Inquiry} {b : Fallible Delivery}
    (h : (router.deliver inquiry).run.Ends exchanges b) : ∀ e ∈ exchanges, SparesSwitch e.1 := by
  rintro ⟨r, answer⟩ he
  obtain hread | ⟨batch, hbatch⟩ := Router.request_of_ends_deliver h _ he
  · cases r with
    | fetch | recordOf | log => trivial
    | _ => exact hread.elim
  · obtain rfl : r = .addRecords batch := hbatch
    trivial

/-- A cycle has nothing to do with the stop switch. -/
theorem sparesSwitch_of_ends_cycle (h : loop.cycle.Ends exchanges outcome) :
    ∀ e ∈ exchanges, SparesSwitch e.1 := by
  have hsaving (c : Cursor) (saved : Except TableFailure Unit) :
      ∀ e ∈ [saving c saved], SparesSwitch e.1 := by simp [saving, SparesSwitch]
  cases ends_cycle_iff.1 h with
  | aimless hintent | stopped hintent => exact sparesSwitch_of_ends_intent hintent
  | waited hintent saved =>
    exact List.forall_mem_append.2 ⟨sparesSwitch_of_ends_intent hintent, hsaving _ saved⟩
  | undelivered hintent hdeliver hclosing =>
    exact List.forall_mem_append.2 ⟨sparesSwitch_of_ends_intent hintent,
      List.forall_mem_append.2 ⟨sparesSwitch_of_ends_deliver hdeliver,
        sparesSwitch_of_givingUp hclosing⟩⟩
  | delivered hintent hdeliver saved =>
    exact List.forall_mem_append.2 ⟨sparesSwitch_of_ends_intent hintent,
      List.forall_mem_append.2 ⟨sparesSwitch_of_ends_deliver hdeliver, hsaving _ saved⟩⟩

/-- The same of a cycle that breaks off. -/
theorem sparesSwitch_of_ends_cycleInWords {b : Option CycleEnd}
    (h : loop.cycleInWords.Ends exchanges b) : ∀ e ∈ exchanges, SparesSwitch e.1 := by
  obtain ⟨q, hleads⟩ := leads_of_ends_cycleInWords h
  obtain ⟨rest, outcome, hends⟩ := hleads.exists_ends
  exact fun e he => sparesSwitch_of_ends_cycle hends e (List.mem_append_left _ he)

/-- The turn is a whole cycle, begun while the stop switch was not set. -/
structure Whole (loop : Poller) (s : Signals) (x : Turn) : Prop where
  ends : loop.cycleInWords.Ends x.exchanges x.outcome
  timed : s.Timed x.start x.exchanges x.finish
  unset : s.setting x.start.arrived = false

/-- How rounds go, with the turns that are made in them and the clocks between which they go. -/
inductive Timetable (loop : Poller) (s : Signals) :
    (limit : Nat) → Clock → List Turn → List (Exchange surroundings) → LoopEnd → Clock → Prop where
  | running (start : Clock) : Timetable loop s 0 start [] [] .running start
  | stopped (n : Nat) (start : Clock) :
      Timetable loop s (n + 1) start [] [⟨.stopRequested, true⟩] .stopped start
  | last {x : Turn} {closing : List (Exchange surroundings)} {ending : LoopEnd} {finish : Clock}
      (n : Nat) (hwhole : loop.Whole s x) (hclosing : loop.Closing x.outcome closing ending)
      (htimed : s.Timed x.finish closing finish) :
      Timetable loop s (n + 1) x.start [x] (⟨.stopRequested, false⟩ :: (x.exchanges ++ closing))
        ending finish
  | next {n : Nat} {x : Turn} {turns : List Turn} {between rest : List (Exchange surroundings)}
      {outcome : CycleEnd} {ending : LoopEnd} {middle finish : Clock} (hwhole : loop.Whole s x)
      (houtcome : x.outcome = some outcome) (hbetween : loop.Between outcome between true)
      (htimed : s.Timed x.finish between middle)
      (hrest : Timetable loop s n middle turns rest ending finish) :
      Timetable loop s (n + 1) x.start (x :: turns)
        (⟨.stopRequested, false⟩ :: (x.exchanges ++ (between ++ rest))) ending finish

variable {s : Signals} {start finish : Clock} {limit : Nat} {turns : List Turn} {t : Tables}

/-- Rounds that are made between two clocks have a timetable. -/
theorem exists_timetable (h : loop.Rounds limit exchanges ending)
    (htimed : s.Timed start exchanges finish) :
    ∃ turns, loop.Timetable s limit start turns exchanges ending finish := by
  induction h generalizing start with
  | running =>
    obtain rfl := Signals.timed_nil_iff.1 htimed
    exact ⟨[], .running _⟩
  | stopped n =>
    obtain ⟨_, ⟨rfl, -⟩, -, -, hnil⟩ := Signals.timed_cons_iff.1 htimed
    obtain rfl := Signals.timed_nil_iff.1 hnil
    exact ⟨[], .stopped n _⟩
  | @last cycling closing b ending n hcycle hclosing =>
    obtain ⟨_, ⟨rfl, hunset⟩, -, -, hrest⟩ := Signals.timed_cons_iff.1 htimed
    obtain ⟨middle, hcycling, htail⟩ := Signals.timed_append_iff.1 hrest
    have hwhole : loop.Whole s ⟨_, cycling, b, middle⟩ := ⟨hcycle, hcycling, hunset.symm⟩
    exact ⟨_, .last n hwhole hclosing htail⟩
  | @next n cycling between rest outcome ending hcycle hbetween _ ih =>
    obtain ⟨_, ⟨rfl, hunset⟩, -, -, hrest⟩ := Signals.timed_cons_iff.1 htimed
    obtain ⟨middle, hcycling, htail⟩ := Signals.timed_append_iff.1 hrest
    obtain ⟨later, hmiddle, hlater⟩ := Signals.timed_append_iff.1 htail
    have hwhole : loop.Whole s ⟨_, cycling, some outcome, middle⟩ :=
      ⟨hcycle, hcycling, hunset.symm⟩
    obtain ⟨turns, hturns⟩ := ih hlater
    exact ⟨_, .next hwhole rfl hbetween hmiddle hturns⟩

/-- How a cycle is followed by the next one. The first has an outcome. If it advanced and is behind
the confirmed height, no time passes; else the pause of the source does, unless a value arrives at
the stop switch that no pause has ended for. -/
structure Paced (loop : Poller) (x y : Turn) : Prop where
  hasOutcome : x.outcome ≠ none
  moment_le : x.finish.moment ≤ y.start.moment
  arrived_le : x.finish.arrived ≤ y.start.arrived
  atOnce : (∃ window records, x.outcome = some (.advanced window records false)) →
    y.start.moment = x.finish.moment
  pauses : (¬ ∃ window records, x.outcome = some (.advanced window records false)) →
    y.start.arrived = x.finish.seen → y.start.moment = x.finish.moment + loop.source.pollMillis

/-- What is done between two cycles takes no time but for its pause, which leaves to later whatever
has arrived. -/
theorem moment_of_between {back : Bool} {exchanges : List (Exchange surroundings)}
    (hbetween : loop.Between outcome exchanges back) (htimed : s.Timed start exchanges finish) :
    (loop.pauseAfter outcome = 0 ∧ back = true ∧ finish.moment = start.moment) ∨
      ∃ (before : Clock) (how : PauseEnd), loop.pauseAfter outcome ≠ 0 ∧
        back = decide (how ≠ .abandoned) ∧ before.moment = start.moment ∧
        before.seen = start.seen ∧ s.Pauses (loop.pauseAfter outcome) before finish how := by
  cases hbetween with
  | yields entry hnone =>
    obtain ⟨middle, ⟨hlog, -⟩, -, -, hrest⟩ := Signals.timed_cons_iff.1 htimed
    obtain ⟨last, ⟨hyield, -⟩, -, -, hnil⟩ := Signals.timed_cons_iff.1 hrest
    obtain rfl := Signals.timed_nil_iff.1 hnil
    exact .inl ⟨hnone, rfl, hyield.trans hlog⟩
  | pauses entry hsome how =>
    obtain ⟨middle, ⟨hlog, hseen⟩, -, -, hrest⟩ := Signals.timed_cons_iff.1 htimed
    obtain ⟨last, hpause, -, -, hnil⟩ := Signals.timed_cons_iff.1 hrest
    obtain rfl := Signals.timed_nil_iff.1 hnil
    exact .inr ⟨middle, how, hsome, rfl, hlog, hseen, hpause⟩

theorem paced_of_between {x y : Turn} {between : List (Exchange surroundings)}
    (houtcome : x.outcome = some outcome) (hbetween : loop.Between outcome between true)
    (htimed : s.Timed x.finish between y.start) : loop.Paced x y := by
  have hbehind : (∃ window records, x.outcome = some (.advanced window records false)) ↔
      outcome.goesOn := by
    rw [houtcome, CycleEnd.goesOn_iff]
    simp
  have hmoment := moment_of_between hbetween htimed
  refine ⟨by simp [houtcome], htimed.moment_le, htimed.arrived_le, fun h => ?_, fun h hquiet => ?_⟩
  · have hpause : loop.pauseAfter outcome = 0 := if_pos (hbehind.1 h)
    obtain ⟨-, -, hnone⟩ | ⟨before, how, hsome, -⟩ := hmoment
    · exact hnone
    · exact absurd hpause hsome
  · have hpause : loop.pauseAfter outcome = loop.source.pollMillis :=
      if_neg fun hgoesOn => h (hbehind.2 hgoesOn)
    rw [← hpause]
    obtain ⟨hzero, -, hnone⟩ | ⟨before, how, -, hback, hbefore, hseen, hpauses⟩ := hmoment
    · rw [hzero, hnone, Nat.add_zero]
    · cases hpauses with
      | elapsed hmoment => rw [hmoment, hbefore]
      | switched _ _ _ harrived =>
        omega
      | abandoned => cases hback

/-- If the stop switch is set for good from some value on, the pause after a cycle goes no further
than to the moment when that value has been sent: no pause has ended for it, or the cycle would not
have been begun. -/
theorem Whole.moment_le_of_between {x : Turn} {between : List (Exchange surroundings)} {back : Bool}
    {due moment : Nat} (hwhole : loop.Whole s x) (hshows : s.Shows x.start)
    (hdue : due ≤ s.sent.length) (hset : ∀ k, due ≤ k → s.setting k = true)
    (hsent : ∀ x ∈ s.sent.take due, x.1 ≤ moment) (hbetween : loop.Between outcome between back)
    (htimed : s.Timed x.finish between finish) : finish.moment ≤ max moment x.finish.moment := by
  have hunset : x.start.arrived < due := by
    by_contra hset'
    have hstands := hset _ (Nat.le_of_not_lt hset')
    rw [hwhole.unset] at hstands
    cases hstands
  have hseen : x.finish.seen = x.start.seen :=
    hwhole.timed.seen_eq (sparesSwitch_of_ends_cycleInWords hwhole.ends)
  have hle := hshows.seen_le
  obtain ⟨-, -, hnone⟩ | ⟨before, how, -, -, hbefore, hsame, hpauses⟩ :=
    moment_of_between hbetween htimed
  · omega
  · have hpaused := hpauses.moment_le_of_due (by omega) hdue hsent
    omega

/-- What a loop does at its looks at the stop switch and between its cycles is nothing to the
tables. -/
def SparesTables : WorkRequest → Prop
  | .stopRequested | .log _ | .yieldTurn | .pause _ => True
  | _ => False

theorem after_of_sparesTables {e : Exchange surroundings} (h : SparesTables e.1) (t : Tables) :
    t.after e = t ∧ t.Allows e := by
  obtain ⟨r, answer⟩ := e
  cases r with
  | stopRequested | log | yieldTurn | pause => exact ⟨rfl, trivial⟩
  | _ => exact h.elim

theorem run_of_sparesTables (h : ∀ e ∈ exchanges, SparesTables e.1) (t : Tables) :
    t.run exchanges = t ∧ t.Permits exchanges := by
  induction exchanges with
  | nil => exact ⟨rfl, trivial⟩
  | cons e rest ih =>
    obtain ⟨hafter, hallows⟩ := after_of_sparesTables (h e List.mem_cons_self) t
    obtain ⟨hrun, hpermits⟩ := ih fun e he => h e (List.mem_cons_of_mem _ he)
    rw [Tables.run_cons, Tables.Permits, hafter]
    exact ⟨hrun, hallows, hpermits⟩

theorem sparesTables_of_between {back : Bool} (h : loop.Between outcome exchanges back) :
    ∀ e ∈ exchanges, SparesTables e.1 := by
  cases h with
  | yields => simp [SparesTables]
  | pauses => simp [SparesTables]

theorem sparesTables_of_closing {b : Option CycleEnd} (h : loop.Closing b exchanges ending) :
    ∀ e ∈ exchanges, SparesTables e.1 := by
  cases h with
  | overflowed | misconfigured => simp
  | abandoned hbetween => exact sparesTables_of_between hbetween

namespace Timetable

variable (h : loop.Timetable s limit start turns exchanges ending finish)

include h

theorem whole : ∀ x ∈ turns, loop.Whole s x := by
  induction h with
  | running | stopped => simp
  | last _ hwhole => exact List.forall_mem_singleton.2 hwhole
  | next hwhole _ _ _ _ ih => exact List.forall_mem_cons.2 ⟨hwhole, ih⟩

/-- The tables are those after the cycles alone. -/
theorem run_eq : t.run exchanges = t.run (turns.flatMap (·.exchanges)) ∧
    (t.Permits exchanges → t.Permits (turns.flatMap (·.exchanges))) := by
  induction h generalizing t with
  | running => exact ⟨rfl, id⟩
  | stopped => exact ⟨rfl, fun _ => trivial⟩
  | @last x closing _ _ _ _ hclosing =>
    have hspares := sparesTables_of_closing hclosing
    have hrun : (t.run x.exchanges).run closing = t.run x.exchanges :=
      (run_of_sparesTables hspares _).1
    constructor
    · rw [Tables.run_cons, Tables.run_append, List.flatMap_singleton]
      exact hrun
    · rintro ⟨-, hpermits⟩
      rw [List.flatMap_singleton]
      exact (Tables.permits_append_iff.1 hpermits).1
  | @next _ x turns between rest _ _ _ _ _ _ hbetween _ _ ih =>
    have hspares := sparesTables_of_between hbetween
    have hrun : (t.run x.exchanges).run between = t.run x.exchanges :=
      (run_of_sparesTables hspares _).1
    obtain ⟨hrest, hpermitted⟩ := @ih (t.run x.exchanges)
    constructor
    · rw [List.flatMap_cons, Tables.run_append, ← hrest, Tables.run_cons, Tables.run_append,
        Tables.run_append]
      exact congrArg (Tables.run · rest) hrun
    · rintro ⟨-, hpermits⟩
      obtain ⟨hcycle, htail⟩ := Tables.permits_append_iff.1 hpermits
      obtain ⟨-, hlater⟩ := Tables.permits_append_iff.1 htail
      have hnext : (t.run x.exchanges).Permits rest := hrun ▸ hlater
      rw [List.flatMap_cons, Tables.permits_append_iff]
      exact ⟨hcycle, hpermitted hnext⟩

/-- Each cycle but the last is followed at the pace of the loop. -/
theorem paced : turns.IsChain loop.Paced ∧ ∀ x ∈ turns.head?, x.start = start := by
  induction h with
  | running | stopped => simp
  | last => simp
  | @next n x turns _ _ _ _ _ _ _ houtcome hbetween htimed hrest ih =>
    obtain ⟨hchain, hhead⟩ := ih
    refine ⟨?_, by simp⟩
    cases turns with
    | nil => simp
    | cons y turns =>
      rw [← hhead y rfl] at htimed
      exact List.isChain_cons_cons.2 ⟨paced_of_between houtcome hbetween htimed, hchain⟩

/-- The loop has only not ended if it was followed for no further cycle. -/
theorem length_le : turns.length ≤ limit ∧ (ending = .running → turns.length = limit) := by
  induction h with
  | running => simp
  | stopped => simp
  | @last x _ _ _ _ _ hclosing =>
    refine ⟨by simp, fun hrunning => ?_⟩
    subst hrunning
    generalize x.outcome = b at hclosing
    cases hclosing
  | next _ _ _ _ _ ih =>
    simp only [List.length_cons]
    exact ⟨Nat.succ_le_succ ih.1, fun hrunning => congrArg (· + 1) (ih.2 hrunning)⟩

theorem subset : ∀ x ∈ turns, x.exchanges ⊆ exchanges := by
  induction h with
  | running | stopped => simp
  | last =>
    refine List.forall_mem_singleton.2 fun e he => ?_
    exact List.mem_cons_of_mem _ (List.mem_append_left _ he)
  | next _ _ _ _ _ ih =>
    refine List.forall_mem_cons.2 ⟨fun e he => ?_, fun x hx e he => ?_⟩
    · exact List.mem_cons_of_mem _ (List.mem_append_left _ he)
    · exact List.mem_cons_of_mem _
        (List.mem_append_right _ (List.mem_append_right _ (ih x hx he)))

/-- A loop ends otherwise than by its stop switch only with a cycle that broke off or has no
cursor. -/
theorem outcome_of_ending :
    (ending = .overflowed → ∃ x ∈ turns, x.outcome = none) ∧
      (ending = .misconfigured → ∃ x ∈ turns, x.outcome = some .misconfigured) := by
  induction h with
  | running | stopped => simp
  | @last x _ _ _ _ _ hclosing =>
    generalize hb : x.outcome = b at hclosing
    cases hclosing with
    | overflowed => simp [hb]
    | misconfigured => simp [hb]
    | abandoned => simp
  | @next _ x _ _ _ _ _ _ _ _ _ _ _ _ ih =>
    constructor
    · intro hending
      obtain ⟨y, hy, hnone⟩ := ih.1 hending
      exact ⟨y, List.mem_cons_of_mem _ hy, hnone⟩
    · intro hending
      obtain ⟨y, hy, hnone⟩ := ih.2 hending
      exact ⟨y, List.mem_cons_of_mem _ hy, hnone⟩

/-- Once the stop switch is set for good, no pause goes further than to the moment when it was. -/
theorem moment_le_of_due (hshows : s.Shows start) {due moment : Nat}
    (hdue : due ≤ s.sent.length) (hset : ∀ k, due ≤ k → s.setting k = true)
    (hsent : ∀ x ∈ s.sent.take due, x.1 ≤ moment) :
    finish.moment ≤ max moment (lastMoment start.moment turns) := by
  induction h with
  | running | stopped => exact Nat.le_max_right _ _
  | @last x closing _ _ _ hwhole hclosing htimed =>
    have hlast : lastMoment x.start.moment [x] = x.finish.moment := rfl
    rw [hlast]
    generalize x.outcome = b at hclosing
    cases hclosing with
    | overflowed | misconfigured =>
      rw [Signals.timed_nil_iff.1 htimed]
      exact Nat.le_max_right _ _
    | abandoned hbetween =>
      exact hwhole.moment_le_of_between hshows hdue hset hsent hbetween htimed
  | @next _ x turns _ _ _ _ middle _ hwhole _ hbetween htimed _ ih =>
    have hfinish := hwhole.timed.shows hshows
    have hmiddle := hwhole.moment_le_of_between hshows hdue hset hsent hbetween htimed
    have hrest := ih (htimed.shows hfinish)
    cases turns with
    | nil =>
      have hlast : lastMoment x.start.moment [x] = x.finish.moment := rfl
      have hnone : lastMoment middle.moment [] = middle.moment := rfl
      omega
    | cons y turns =>
      have hsame : lastMoment middle.moment (y :: turns) =
          lastMoment x.start.moment (x :: y :: turns) := by
        simp [lastMoment, List.getLast?_cons]
      omega

end Timetable

/-- An advancing cycle says whether its loop has caught up as the next cycle will find: that plans,
under the same confirmed height, from the cursor that has been saved. -/
theorem plan_of_advanced {window : Window} {records : Nat} {caughtUp : Bool}
    (hrun : loop.source.Runnable)
    (h : loop.cycle.Ends exchanges (.advanced window records caughtUp))
    (hpermits : t.Permits exchanges) :
    ∃ head c, lastHead? exchanges = some head ∧
      loop.startCursor (loop.storedIn (t.run exchanges)) = some c ∧
      (caughtUp = false ↔ ∃ next, c.plan (loop.finality.under head) = .ready next) := by
  obtain ⟨c, hstart⟩ := exists_startCursor hrun (loop.storedIn t)
  obtain ⟨hwindow, hstands⟩ := tells_of_ends_cycle hrun hstart h hpermits
  have hlow : loop.source.startHeight ≤ c.height :=
    height_of_startCursor hstart ▸ startHeight_le_position
  have hstep := (step_of_startCursor hrun hstart).1
  have hleast := hrun.one_le_minStep
  have hminStep := minStep_of_startCursor hstart
  have hlast : window.last = c.height + c.step := hwindow ▸ rfl
  obtain ⟨next, hnext⟩ := exists_startCursor hrun (loop.storedIn (t.run exchanges))
  have hnextHeight : next.height = window.last + 1 :=
    (height_of_startCursor hnext).trans (position_of_stands hstands (by omega))
  have hnextStep : next.step = loop.source.step :=
    step_of_stands hstands hnext hrun.minStep_le_step (Int.le_refl _)
  generalize hout : CycleEnd.advanced window records caughtUp = out at h
  cases ends_cycle_iff.1 h with
  | aimless | stopped | undelivered => cases hout
  | waited _ saved => cases saved <;> cases hout
  | @delivered survey delivering c' safeHeight window' d hintent hdeliver saved =>
    cases saved with
    | error => cases hout
    | ok =>
      cases hout
      obtain ⟨rfl, -⟩ := eq_of_ends_intent_deliver hstart hintent hpermits
      obtain ⟨stored, head, approach, rfl, -, -, rfl, -⟩ := approach_of_ends_intent hintent
      have hadvance : (loop.advance c' (loop.finality.under head) window).run.Ends
          (delivering ++ [saving (loop.stride.past c' window) (.ok ())]) _ :=
        ends_advance_iff.2 (.inr ⟨delivering, d, .ok (), rfl, hdeliver, rfl⟩)
      refine ⟨head, next, ?_, hnext, ?_⟩
      · rw [lastHead?_append_of_forall (request_ne_headHeight_of_ends_advance hadvance)]
        exact lastHead?_append_looking approach head
      · have hmoved : (loop.stride.past c' window).height = window.last + 1 :=
          height_past (by omega)
        rw [hmoved, step_past hrun (hminStep ▸ hrun.minStep_le_step), plan_eq, hnextHeight,
          hnextStep]
        by_cases hlate : loop.finality.under head < window.last + 1 + loop.source.step
        · simp [hlate]
        · simp [hlate]

theorem exists_rounds_of_ends_run (h : (loop.run limit).Ends exchanges ending) :
    ∃ entry rounding closing, exchanges = ⟨.log entry, ()⟩ :: (rounding ++ closing) ∧
      loop.Rounds limit rounding ending ∧
      (closing = [] ∨ ∃ entry', closing = [⟨.log entry', ()⟩]) := by
  unfold run at h
  obtain ⟨u, first, more, rfl, hfirst, hmore⟩ := ends_bind_iff.1 h
  obtain rfl := Work.ends_report_iff.1 hfirst
  obtain ⟨ended, rounding, last, rfl, hrounding, hlast⟩ := ends_bind_iff.1 hmore
  have hrounds := rounds_of_ends_rounds hrounding
  dsimp only at hlast
  split at hlast
  · obtain ⟨u, report, rest, rfl, hreport, hrest⟩ := ends_bind_iff.1 hlast
    obtain rfl := Work.ends_report_iff.1 hreport
    obtain ⟨rfl, rfl⟩ := ends_done_iff.1 hrest
    exact ⟨_, rounding, _, rfl, hrounds, .inr ⟨_, rfl⟩⟩
  · obtain ⟨rfl, rfl⟩ := ends_done_iff.1 hlast
    exact ⟨_, rounding, _, rfl, hrounds, .inl rfl⟩

/-- A run of a loop between two clocks is told by the cycles that it makes. -/
structure RunsInTurns (loop : Poller) (s : Signals) (limit : Nat) (t : Tables)
    (start finish : Clock) (exchanges : List (Exchange surroundings)) (ending : LoopEnd)
    (turns : List Turn) : Prop where
  /-- Each turn is a whole cycle, begun at a moment when the stop switch is not set. -/
  whole : ∀ x ∈ turns, loop.Whole s x
  /-- One cycle follows another, at the pace of the loop. -/
  paced : turns.IsChain loop.Paced
  /-- Where the source has a pause at all and no value arrives at the stop switch, a cycle follows
  without the pause exactly if the one before it advanced and was still behind. -/
  followsAtOnce_iff : 0 < loop.source.pollSecs → turns.IsChain fun x y =>
    y.start.arrived = x.finish.seen → (y.start.moment = x.finish.moment ↔
      ∃ window records, x.outcome = some (.advanced window records false))
  /-- The tables are as after these cycles alone, each on the tables that the one before it has
  left. -/
  run_eq : t.run exchanges = t.run (turns.flatMap (·.exchanges))
  permitted : t.Permits (turns.flatMap (·.exchanges))
  /-- The loop has ended, unless it was followed for no further cycle. -/
  length_le : turns.length ≤ limit
  running : ending = .running → turns.length = limit
  /-- If the stop switch is set for good from some value on, no cycle is begun after that value,
  and the loop goes on no longer than to the moment when it was sent and to the end of its last
  cycle. -/
  stops : ∀ due, due ≤ s.sent.length → (∀ k, due ≤ k → s.setting k = true) →
    (∀ x ∈ turns, x.start.arrived < due) ∧
      ∀ moment, (∀ x ∈ s.sent.take due, x.1 ≤ moment) →
        finish.moment ≤ max moment (lastMoment start.moment turns)
  /-- An advancing cycle says that it is behind exactly if, at the same confirmed height, the next
  plan from the saved cursor is a window. -/
  behind_iff : ∀ before x after window records caughtUp, turns = before ++ x :: after →
    x.outcome = some (.advanced window records caughtUp) →
    ∃ head c, lastHead? x.exchanges = some head ∧
      loop.startCursor (loop.storedIn (t.run ((before ++ [x]).flatMap (·.exchanges)))) = some c ∧
      (caughtUp = false ↔ ∃ next, c.plan (loop.finality.under head) = .ready next)
  /-- A source that has been checked always has a cursor. -/
  configured : ending ≠ .misconfigured
  /-- No cycle breaks off where the heights fit their words. -/
  unbroken : loop.position (loop.storedIn t) + loop.source.step ≤ maxInt64 →
    (∀ e ∈ exchanges, loop.Admits e) → ending ≠ .overflowed ∧ ∀ x ∈ turns, x.outcome ≠ none

theorem runsInTurns_of_timetable (hrun : loop.source.Runnable)
    (hfinality : loop.finality = .of loop.source.network loop.source.confirmations)
    (h : loop.Timetable s limit start turns exchanges ending finish) (hshows : s.Shows start)
    (hpermits : t.Permits exchanges) :
    loop.RunsInTurns s limit t start finish exchanges ending turns := by
  have hwhole := h.whole
  have hpermitted := h.run_eq.2 hpermits
  refine ⟨hwhole, h.paced.1, ?_, h.run_eq.1, hpermitted, h.length_le.1, h.length_le.2, ?_, ?_, ?_,
    ?_⟩
  · intro hpoll
    refine h.paced.1.imp fun x y hpaced hquiet => ⟨fun hsame => ?_, hpaced.atOnce⟩
    by_contra hbehind
    have hmoment := hpaced.pauses hbehind hquiet
    have hpositive : 0 < loop.source.pollSecs.toNat := hpoll
    unfold Source.pollMillis at hmoment
    omega
  · intro due hdue hset
    refine ⟨fun x hx => ?_, fun moment hsent => h.moment_le_of_due hshows hdue hset hsent⟩
    by_contra hlate
    have hstands := hset _ (Nat.le_of_not_lt hlate)
    rw [(hwhole x hx).unset] at hstands
    cases hstands
  · rintro before x after window records caughtUp rfl houtcome
    have hends := (hwhole x (by simp)).ends
    rw [houtcome] at hends
    rw [List.flatMap_append, List.flatMap_cons, Tables.permits_append_iff,
      Tables.permits_append_iff] at hpermitted
    rw [List.flatMap_append, List.flatMap_singleton, Tables.run_append]
    exact plan_of_advanced hrun (ends_cycle_of_ends_cycleInWords hends) hpermitted.2.1
  · intro hending
    obtain ⟨x, hx, hmisconfigured⟩ := h.outcome_of_ending.2 hending
    have hends := (hwhole x hx).ends
    rw [hmisconfigured] at hends
    exact ne_misconfigured_of_ends_cycle hrun (ends_cycle_of_ends_cycleInWords hends) rfl
  · intro hroom hadmits
    have hended : ∀ x ∈ turns.map Turn.cycle, loop.cycleInWords.Ends x.1 x.2 :=
      List.forall_mem_map.2 fun x hx => (hwhole x hx).ends
    have hadmitted : ∀ x ∈ turns.map Turn.cycle, ∀ e ∈ x.1, loop.Admits e :=
      List.forall_mem_map.2 fun x hx e he => hadmits e (h.subset x hx he)
    have hcycles : t.Permits ((turns.map Turn.cycle).flatMap (·.1)) := by
      rwa [List.flatMap_map]
    have houtcomes := exists_outcome_of_ended hrun hfinality hended hcycles hadmitted hroom
    have hunbroken : ∀ x ∈ turns, x.outcome ≠ none := by
      intro x hx hnone
      obtain ⟨outcome, houtcome⟩ := houtcomes _ (List.mem_map_of_mem hx)
      cases hnone.symm.trans houtcome
    refine ⟨fun hending => ?_, hunbroken⟩
    obtain ⟨x, hx, hnone⟩ := h.outcome_of_ending.1 hending
    exact hunbroken x hx hnone

/-- A loop makes whole cycles, one after the other, and none while the stop switch is set; between
two cycles it pauses, unless it is behind the confirmed height; and once the switch is set for good
it ends with the cycle that is under way. Some run there always is, and every run is one in turns.
No premise on how the adapters, the tables and the network answer is needed, or on how long they
take, and none on what is sent to the stop switch. -/
theorem runs_in_turns {config : Config} (hvalid : config.Valid) {source : Source}
    (hsource : source ∈ config.sources) (router : Router) {s : Signals} {start : Clock}
    (hshows : s.Shows start) (t : Tables) (limit : Nat) :
    (∃ exchanges ending finish, ((Poller.of source router).run limit).Ends exchanges ending ∧
      t.Permits exchanges ∧ s.Timed start exchanges finish) ∧
    ∀ exchanges ending finish, ((Poller.of source router).run limit).Ends exchanges ending →
      t.Permits exchanges → s.Timed start exchanges finish →
      ∃ turns, (Poller.of source router).RunsInTurns s limit t start finish exchanges ending
        turns := by
  refine ⟨hshows.exists_timed _ t, fun exchanges ending finish hends hpermits htimed => ?_⟩
  obtain ⟨entry, rounding, closing, rfl, hrounds, hclosing⟩ := exists_rounds_of_ends_run hends
  obtain ⟨middle, ⟨hopening, -⟩, -, hmiddle, htail⟩ := Signals.timed_cons_iff.1 htimed
  obtain ⟨later, hrounding, hend⟩ := Signals.timed_append_iff.1 htail
  obtain ⟨turns, hturns⟩ := exists_timetable hrounds hrounding
  obtain ⟨hfirst, -⟩ := Tables.permits_append_iff.1 hpermits.2
  have hinner := runsInTurns_of_timetable (hvalid.runnable hsource) rfl hturns hmiddle hfirst
  have hfinish : finish.moment = later.moment := by
    obtain rfl | ⟨entry', rfl⟩ := hclosing
    · rw [Signals.timed_nil_iff.1 hend]
    · obtain ⟨last, ⟨hreport, -⟩, -, -, hnil⟩ := Signals.timed_cons_iff.1 hend
      rw [Signals.timed_nil_iff.1 hnil, hreport]
  have hreports : ∀ e ∈ closing, SparesTables e.1 := by
    obtain rfl | ⟨entry', rfl⟩ := hclosing
    · simp
    · simp [SparesTables]
  have hrun : t.run (⟨.log entry, ()⟩ :: (rounding ++ closing)) = t.run rounding := by
    rw [Tables.run_cons, Tables.run_append, (run_of_sparesTables hreports _).1]
    rfl
  refine ⟨turns, { hinner with
    run_eq := hrun.trans hinner.run_eq
    stops := fun due hdue hset => ?_
    unbroken := fun hroom hadmits => hinner.unbroken hroom fun e he =>
      hadmits e (List.mem_cons_of_mem _ (List.mem_append_left _ he)) }⟩
  rw [hfinish, ← hopening]
  exact hinner.stops due hdue hset

/-- A stop that is sent half a second into the run. -/
def sampleSignals : Signals where
  initial := false
  sent := [(500, true)]
  gone := none
  ascending := by decide
  le_gone := by simp

/-- A fetch takes a fifth of a second, and the pause after the cycle is cut short. -/
theorem runs_in_turns_sample :
    Config.sample.Valid ∧ Source.sample ∈ Config.sample.sources ∧
      sampleSignals.Shows ⟨0, 0, 0⟩ ∧
      ∃ exchanges, ((Poller.of .sample .sample).run 7).Ends exchanges .stopped ∧
        ({} : Tables).Permits exchanges ∧
        sampleSignals.Timed ⟨0, 0, 0⟩ exchanges ⟨500, 1, 1⟩ ∧
        ∃ turns, (Poller.of .sample .sample).RunsInTurns sampleSignals 7 {} ⟨0, 0, 0⟩ ⟨500, 1, 1⟩
          exchanges .stopped turns := by
  have hshows (moment : Nat) (hle : moment ≤ 500) : sampleSignals.Shows ⟨moment, 0, 0⟩ :=
    ⟨Nat.le_refl _, Nat.zero_le _, by simp, by simpa [sampleSignals] using hle⟩
  have hset : sampleSignals.Shows ⟨500, 1, 1⟩ :=
    ⟨Nat.le_refl _, Nat.le_refl _, by simp [sampleSignals], by simp [sampleSignals]⟩
  let exchanges : List (Exchange surroundings) :=
    [⟨.log ⟨.info, "Polling loop started", reportFields (.of .sample .sample) ++
        [("target", " 0xAb ")]⟩, ()⟩,
      ⟨.stopRequested, false⟩,
      loading (.of .sample .sample) (.ok none), looking (.of .sample .sample) (.ok 121),
      ⟨.fetch ⟨0, "sample"⟩ (inquiryFor (.of .sample .sample) ⟨100, 109⟩), .ok []⟩,
      saving (cursorAt 110 9) (.ok ()),
      ⟨.log ⟨.info, "Cycle advanced", reportFields (.of .sample .sample) ++
        [("from", "100"), ("to", "109"), ("records", "0"), ("caught_up", "true")]⟩, ()⟩,
      ⟨.pause 2000, .switched⟩, ⟨.stopRequested, true⟩,
      ⟨.log ⟨.info, "Polling loop stopped", reportFields (.of .sample .sample)⟩, ()⟩]
  have hends : ((Poller.of .sample .sample).run 7).Ends exchanges .stopped :=
    .ask (.ask (.ask (.ask (.ask (.ask (.ask (.ask (.ask (.ask (.nil _))))))))))
  have hpermits : ({} : Tables).Permits exchanges :=
    ⟨trivial, trivial, rfl, trivial, trivial, trivial, trivial, trivial, trivial, trivial, trivial⟩
  have hpaused : sampleSignals.Pauses 2000 ⟨200, 0, 0⟩ ⟨500, 1, 1⟩ .switched :=
    .switched (x := (500, true)) rfl rfl (by decide) Nat.one_pos rfl
  have hstart := hshows 0 (Nat.zero_le _)
  have hfetched := hshows 200 (by decide)
  have htimed : sampleSignals.Timed ⟨0, 0, 0⟩ exchanges ⟨500, 1, 1⟩ := by
    refine .cons ?_ (Nat.zero_le _) hstart <| .cons ?_ (Nat.zero_le _) hstart <|
      .cons ?_ (Nat.zero_le _) hstart <| .cons ?_ (Nat.zero_le _) hstart <|
      .cons ?_ (Nat.zero_le _) hfetched <| .cons ?_ (Nat.zero_le _) hfetched <|
      .cons ?_ (Nat.zero_le _) hfetched <| .cons hpaused (Nat.zero_le _) hset <|
      .cons ?_ (by decide) hset <| .cons ?_ (by decide) hset (.nil _)
    · exact ⟨rfl, rfl⟩
    · exact ⟨rfl, rfl⟩
    · exact ⟨Nat.le_refl _, rfl⟩
    · exact ⟨Nat.le_refl _, rfl⟩
    · exact ⟨Nat.zero_le _, rfl⟩
    · exact ⟨Nat.le_refl _, rfl⟩
    · exact ⟨rfl, rfl⟩
    · exact ⟨rfl, rfl⟩
    · exact ⟨rfl, rfl⟩
  have hvalid : Config.sample.Valid := by decide
  have hsource : Source.sample ∈ Config.sample.sources := List.mem_singleton.2 rfl
  obtain ⟨-, hturns⟩ := runs_in_turns hvalid hsource .sample hstart {} 7
  exact ⟨hvalid, hsource, hstart, exchanges, hends, hpermits, htimed,
    hturns exchanges .stopped _ hends hpermits htimed⟩

/-- A loop that is told the least height there is breaks off in its first cycle and is gone,
although nobody ever sets its stop switch. -/
theorem run_breaks_off :
    Config.sample.Valid ∧ Source.sample ∈ Config.sample.sources ∧
      ∃ (s : Signals) (cycling exchanges : List (Exchange surroundings)),
        s.Shows ⟨0, 0, 0⟩ ∧ (∀ arrived, s.setting arrived = false) ∧
        ((Poller.of .sample .sample).run 7).Ends exchanges .overflowed ∧
        ({} : Tables).Permits exchanges ∧ s.Timed ⟨0, 0, 0⟩ exchanges ⟨0, 0, 0⟩ ∧
        cycling <:+ exchanges ∧ (Poller.of .sample .sample).cycleInWords.Ends cycling none := by
  let s : Signals := ⟨false, [], none, .nil, by simp⟩
  let cycling : List (Exchange surroundings) :=
    [loading (.of .sample .sample) (.ok none), looking (.of .sample .sample) (.ok minInt64)]
  let exchanges : List (Exchange surroundings) :=
    ⟨.log ⟨.info, "Polling loop started", reportFields (.of .sample .sample) ++
      [("target", " 0xAb ")]⟩, ()⟩ :: ⟨.stopRequested, false⟩ :: cycling
  have hshows : s.Shows ⟨0, 0, 0⟩ :=
    ⟨Nat.le_refl _, Nat.le_refl _, by simp [s], by simp [s]⟩
  have hends : ((Poller.of .sample .sample).run 7).Ends exchanges .overflowed :=
    .ask (.ask (.ask (.ask (.nil _))))
  have hpermits : ({} : Tables).Permits exchanges := ⟨trivial, trivial, rfl, trivial, trivial⟩
  have htimed : s.Timed ⟨0, 0, 0⟩ exchanges ⟨0, 0, 0⟩ := by
    refine .cons ?_ (Nat.le_refl _) hshows <| .cons ?_ (Nat.le_refl _) hshows <|
      .cons ?_ (Nat.le_refl _) hshows <| .cons ?_ (Nat.le_refl _) hshows (.nil _)
    · exact ⟨rfl, rfl⟩
    · exact ⟨rfl, rfl⟩
    · exact ⟨Nat.le_refl _, rfl⟩
    · exact ⟨Nat.le_refl _, rfl⟩
  exact ⟨by decide, List.mem_singleton.2 rfl, s, cycling, exchanges, hshows,
    fun arrived => by simp [Signals.setting, s], hends, hpermits, htimed,
    List.suffix_append [_, _] cycling, .ask (.ask (.nil _))⟩

end Poller

end ChainCrawl
