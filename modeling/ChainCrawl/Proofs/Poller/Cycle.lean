import ChainCrawl.Poller.Cycle
import ChainCrawl.Proofs.Delivery.Router

namespace ChainCrawl

/-- What a cycle came to if its last save went well, and else the failure of the save. -/
def CycleEnd.ifSaved (saved : Except TableFailure Unit) (outcome : CycleEnd) : CycleEnd :=
  match saved with
  | .ok () => outcome
  | .error e => .failed e.toFailure

namespace Poller

open Proc

variable (loop : Poller)

def loading (answer : Except TableFailure (Option Cursor)) : Exchange surroundings :=
  ⟨.loadCursor loop.source.key loop.source.network, answer⟩

def looking (answer : Fallible Int) : Exchange surroundings :=
  ⟨.headHeight loop.finality.network, answer⟩

def saving (c : Cursor) (answer : Except TableFailure Unit) : Exchange surroundings :=
  ⟨.saveCursor c, answer⟩

/-- The report of a shrunk step that was not saved. -/
def shrinkReport (e : TableFailure) : Exchange surroundings :=
  ⟨.log ⟨.warn, "Failed to persist shrunken step",
    [("source", loop.source.key), ("network", loop.source.network.name), ("error", e.text)]⟩, ()⟩

/-- The exchanges by which a cycle gives up for a cause: some causes shrink the step. -/
def GivingUp (c : Cursor) (cause : Failure) (exchanges : List (Exchange surroundings)) : Prop :=
  if cause.shrinksWindow then
    exchanges = [saving c.shrunk (.ok ())] ∨
      ∃ e, exchanges = [saving c.shrunk (.error e), loop.shrinkReport e]
  else exchanges = []

/-- The exchanges before the look at the newest block that counts: a first look may have been too
early, and is slept over. -/
inductive Approach : Option Cursor → Cursor → List (Exchange surroundings) → Prop where
  | atOnce {stored : Option Cursor} {c : Cursor} (hstart : loop.startCursor stored = some c) :
      Approach stored c [loop.loading (.ok stored)]
  | afterPause {stored : Option Cursor} {c : Cursor} (head : Int)
      (hstart : loop.startCursor stored = some c)
      (hearly : loop.finality.under head < c.height + c.step) :
      Approach stored c
        [loop.loading (.ok stored), loop.looking (.ok head), ⟨.sleep c.sleepMillis, ()⟩]

/-- How a cycle comes to its intent. -/
inductive Survey : List (Exchange surroundings) → Fallible Intent → Prop where
  /-- The cursor cannot be loaded. -/
  | unloaded (e : TableFailure) : Survey [loop.loading (.error e)] (.error e.toFailure)
  /-- The steps of the source are crossed. -/
  | crossed {stored : Option Cursor} (hstart : loop.startCursor stored = none) :
      Survey [loop.loading (.ok stored)] (.ok .stop)
  /-- The newest block is not told. -/
  | unseen {stored : Option Cursor} {c : Cursor} {approach closing : List (Exchange surroundings)}
      (e : Failure) (happroach : loop.Approach stored c approach)
      (hclosing : loop.GivingUp c (loop.finality.failure e) closing) :
      Survey (approach ++ loop.looking (.error e) :: closing) (.error (loop.finality.failure e))
  /-- The window lies under the confirmed height. -/
  | ready {stored : Option Cursor} {c : Cursor} {approach : List (Exchange surroundings)}
      (head : Int) (happroach : loop.Approach stored c approach)
      (hready : c.height + c.step ≤ loop.finality.under head) :
      Survey (approach ++ [loop.looking (.ok head)])
        (.ok (.deliver c (loop.finality.under head) ⟨c.height, c.height + c.step⟩))
  /-- The window is too early twice. -/
  | early {stored : Option Cursor} {c : Cursor} (first second : Int)
      (hstart : loop.startCursor stored = some c)
      (hfirst : loop.finality.under first < c.height + c.step)
      (hsecond : loop.finality.under second < c.height + c.step) :
      Survey [loop.loading (.ok stored), loop.looking (.ok first), ⟨.sleep c.sleepMillis, ()⟩,
          loop.looking (.ok second)]
        (.ok (.wait c (loop.finality.under second) (c.height + c.step)))

/-- How a cycle goes. -/
inductive Course : List (Exchange surroundings) → CycleEnd → Prop where
  /-- The cycle fails before it has an intent. -/
  | aimless {survey : List (Exchange surroundings)} {cause : Failure}
      (hintent : loop.intent.run.Ends survey (.error cause)) : Course survey (.failed cause)
  /-- The source has no cursor. -/
  | stopped {survey : List (Exchange surroundings)}
      (hintent : loop.intent.run.Ends survey (.ok .stop)) : Course survey .misconfigured
  /-- The step is saved shrunk. -/
  | waited {survey : List (Exchange surroundings)} {c : Cursor} {safeHeight needed : Int}
      (hintent : loop.intent.run.Ends survey (.ok (.wait c safeHeight needed)))
      (saved : Except TableFailure Unit) :
      Course (survey ++ [saving c.shrunk saved]) (.ifSaved saved (.waiting safeHeight needed))
  /-- The window is not delivered. -/
  | undelivered {survey delivering closing : List (Exchange surroundings)} {c : Cursor}
      {safeHeight : Int} {window : Window} {cause : Failure}
      (hintent : loop.intent.run.Ends survey (.ok (.deliver c safeHeight window)))
      (hdeliver : (loop.router.deliver (loop.inquiryFor window)).run.Ends delivering (.error cause))
      (hclosing : loop.GivingUp c cause closing) :
      Course (survey ++ (delivering ++ closing)) (.failed cause)
  /-- The window is delivered, and the cursor is saved behind it. -/
  | delivered {survey delivering : List (Exchange surroundings)} {c : Cursor}
      {safeHeight : Int} {window : Window} {d : Delivery}
      (hintent : loop.intent.run.Ends survey (.ok (.deliver c safeHeight window)))
      (hdeliver : (loop.router.deliver (loop.inquiryFor window)).run.Ends delivering (.ok d))
      (saved : Except TableFailure Unit) :
      Course (survey ++ (delivering ++ [saving (loop.stride.past c window) saved]))
        (.ifSaved saved (.advanced window d.records.length
          (safeHeight < (loop.stride.past c window).height + (loop.stride.past c window).step)))

variable {loop} {exchanges : List (Exchange surroundings)}

theorem ends_saveShrunk_iff {c : Cursor} {u : Unit} :
    (loop.saveShrunk c).Ends exchanges u ↔
      exchanges = [saving c.shrunk (.ok ())] ∨
        ∃ e, exchanges = [saving c.shrunk (.error e), loop.shrinkReport e] := by
  refine Iff.trans ends_bind_iff ?_
  constructor
  · rintro ⟨saved, first, rest, rfl, hfirst, hrest⟩
    obtain rfl := Work.ends_call_iff.1 hfirst
    cases saved with
    | ok =>
      obtain ⟨rfl, -⟩ := ends_done_iff.1 hrest
      exact .inl rfl
    | error e =>
      obtain rfl := Work.ends_report_iff.1 hrest
      exact .inr ⟨e, rfl⟩
  · rintro (rfl | ⟨e, rfl⟩)
    · exact ⟨.ok (), [_], [], rfl, Work.ends_call_iff.2 rfl, .nil _⟩
    · exact ⟨.error e, [_], [_], rfl, Work.ends_call_iff.2 rfl, Work.ends_report_iff.2 rfl⟩

/-- Giving up saves the cursor with the smallest step, if anything, and may report. -/
theorem request_of_givingUp {c : Cursor} {cause : Failure} (h : loop.GivingUp c cause exchanges) :
    ∀ e ∈ exchanges, e.1 = .saveCursor c.shrunk ∨ ∃ entry, e.1 = .log entry := by
  intro e he
  unfold GivingUp at h
  split at h
  · obtain rfl | ⟨f, rfl⟩ := h
    · obtain rfl := List.mem_singleton.1 he
      exact .inl rfl
    · obtain rfl | he := List.mem_cons.1 he
      · exact .inl rfl
      · obtain rfl := List.mem_singleton.1 he
        exact .inr ⟨_, rfl⟩
  · obtain rfl := h
    cases he

theorem ends_giveUp_iff {α : Type} {c : Cursor} {cause : Failure} {b : Fallible α} :
    (loop.giveUp c cause : Crawl α).run.Ends exchanges b ↔
      loop.GivingUp c cause exchanges ∧ b = .error cause := by
  unfold giveUp GivingUp
  dsimp only
  by_cases hshrinks : cause.shrinksWindow = true
  · rw [if_pos hshrinks, if_pos hshrinks, ends_run_bind_iff]
    constructor
    · rintro (⟨u, first, rest, rfl, hfirst, hrest⟩ | ⟨e, hfirst, rfl⟩)
      · obtain ⟨rfl, rfl⟩ := ends_run_throw_iff.1 hrest
        obtain ⟨u', hsave, -⟩ := Work.ends_lift_iff.1 hfirst
        exact ⟨by simpa using ends_saveShrunk_iff.1 hsave, rfl⟩
      · obtain ⟨u', -, heq⟩ := Work.ends_lift_iff.1 hfirst
        cases heq
    · rintro ⟨hsave, rfl⟩
      exact .inl ⟨(), exchanges, [], by simp,
        Work.ends_lift_iff.2 ⟨(), ends_saveShrunk_iff.2 hsave, rfl⟩,
        ends_run_throw_iff.2 ⟨rfl, rfl⟩⟩
  · rw [if_neg hshrinks, if_neg hshrinks]
    exact ends_run_throw_iff

theorem ends_confirmedHeight_iff {c : Cursor} {b : Fallible Int} :
    (loop.confirmedHeight c).run.Ends exchanges b ↔
      (∃ head, exchanges = [loop.looking (.ok head)] ∧ b = .ok (loop.finality.under head)) ∨
      ∃ e closing, exchanges = loop.looking (.error e) :: closing ∧
        loop.GivingUp c (loop.finality.failure e) closing ∧
        b = .error (loop.finality.failure e) := by
  unfold confirmedHeight
  rw [Work.ends_run_ask_bind_iff]
  constructor
  · rintro ⟨answer, rest, rfl, hrest⟩
    cases answer with
    | ok head =>
      obtain ⟨rfl, rfl⟩ := ends_run_pure_iff.1 hrest
      exact .inl ⟨head, rfl, rfl⟩
    | error e =>
      obtain ⟨hclosing, rfl⟩ := ends_giveUp_iff.1 hrest
      exact .inr ⟨e, rest, rfl, hclosing, rfl⟩
  · rintro (⟨head, rfl, rfl⟩ | ⟨e, closing, rfl, hclosing, rfl⟩)
    · exact ⟨.ok head, [], rfl, ends_run_pure_iff.2 ⟨rfl, rfl⟩⟩
    · exact ⟨.error e, closing, rfl, ends_giveUp_iff.2 ⟨hclosing, rfl⟩⟩

theorem ends_run_look_bind_iff {β : Type} {c : Cursor} {f : Int → Crawl β} {b : Fallible β} :
    (loop.confirmedHeight c >>= f).run.Ends exchanges b ↔
      (∃ head rest, exchanges = loop.looking (.ok head) :: rest ∧
        (f (loop.finality.under head)).run.Ends rest b) ∨
      ∃ e closing, exchanges = loop.looking (.error e) :: closing ∧
        loop.GivingUp c (loop.finality.failure e) closing ∧
        b = .error (loop.finality.failure e) := by
  rw [ends_run_bind_iff]
  simp only [ends_confirmedHeight_iff]
  constructor
  · rintro (⟨height, first, rest, rfl, ⟨head, rfl, heq⟩ | ⟨e, closing, -, -, heq⟩, hrest⟩ |
      ⟨cause, ⟨head, -, heq⟩ | ⟨e, closing, rfl, hclosing, heq⟩, rfl⟩)
    · cases heq
      exact .inl ⟨head, rest, rfl, hrest⟩
    · cases heq
    · cases heq
    · cases heq
      exact .inr ⟨e, closing, rfl, hclosing, rfl⟩
  · rintro (⟨head, rest, rfl, hrest⟩ | ⟨e, closing, rfl, hclosing, rfl⟩)
    · exact .inl ⟨_, [_], rest, rfl, .inl ⟨head, rfl, rfl⟩, hrest⟩
    · exact .inr ⟨_, .inr ⟨e, closing, rfl, hclosing, rfl⟩, rfl⟩

/-- The plan of a cursor is ready from the height on at which its window ends. -/
theorem plan_eq (c : Cursor) (safeHeight : Int) :
    c.plan safeHeight = if safeHeight < c.height + c.step then
      .early safeHeight (c.height + c.step) else .ready ⟨c.height, c.height + c.step⟩ := rfl

/-- Planning from a loaded cursor goes on as the survey that began with loading it. -/
theorem survey_of_ends_planFrom {stored : Option Cursor} {c : Cursor} {b : Fallible Intent}
    (hstart : loop.startCursor stored = some c)
    (h : (loop.planFrom c).run.Ends exchanges b) :
    loop.Survey (loop.loading (.ok stored) :: exchanges) b := by
  unfold planFrom at h
  obtain ⟨first, rest, rfl, hrest⟩ | ⟨e, closing, rfl, hclosing, rfl⟩ :=
    ends_run_look_bind_iff.1 h
  · rw [plan_eq] at hrest
    by_cases hfirst : loop.finality.under first < c.height + c.step
    · rw [if_pos hfirst] at hrest
      obtain ⟨_, more, rfl, hmore⟩ := Work.ends_run_ask_bind_iff.1 hrest
      obtain ⟨second, last, rfl, hlast⟩ | ⟨e, closing, rfl, hclosing, rfl⟩ :=
        ends_run_look_bind_iff.1 hmore
      · rw [plan_eq] at hlast
        by_cases hsecond : loop.finality.under second < c.height + c.step
        · rw [if_pos hsecond] at hlast
          obtain ⟨rfl, rfl⟩ := ends_run_pure_iff.1 hlast
          exact .early first second hstart hfirst hsecond
        · rw [if_neg hsecond] at hlast
          obtain ⟨rfl, rfl⟩ := ends_run_pure_iff.1 hlast
          exact .ready second (.afterPause first hstart hfirst) (by omega)
      · exact .unseen e (.afterPause first hstart hfirst) hclosing
    · rw [if_neg hfirst] at hrest
      obtain ⟨rfl, rfl⟩ := ends_run_pure_iff.1 hrest
      exact .ready first (.atOnce hstart) (by omega)
  · exact .unseen e (.atOnce hstart) hclosing

theorem ends_planFrom_of_early {c : Cursor} {first : Int}
    (hfirst : loop.finality.under first < c.height + c.step) {b : Fallible Intent}
    (h : (do
        let height ← loop.confirmedHeight c
        match c.plan height with
        | .ready window => return .deliver c height window
        | .early safeHeight needed => return .wait c safeHeight needed : Crawl Intent).run.Ends
      exchanges b) :
    (loop.planFrom c).run.Ends
      (loop.looking (.ok first) :: ⟨.sleep c.sleepMillis, ()⟩ :: exchanges) b := by
  unfold planFrom
  refine ends_run_look_bind_iff.2 (.inl ⟨first, _, rfl, ?_⟩)
  rw [plan_eq, if_pos hfirst]
  exact Work.ends_run_ask_bind_iff.2 ⟨(), exchanges, rfl, h⟩

theorem ends_load_iff {b : Fallible (Option Cursor)} :
    (Work.fromTable (Work.call (.loadCursor loop.source.key loop.source.network))).run.Ends
      exchanges b ↔ ∃ answer : Except TableFailure (Option Cursor),
        exchanges = [loop.loading answer] ∧ b = answer.mapError TableFailure.toFailure :=
  Iff.trans Work.ends_fromTable_iff (exists_congr fun _ => and_congr_left' Work.ends_call_iff)

/-- A cycle with a cursor plans from it. -/
theorem ends_intent_of_startCursor {stored : Option Cursor} {c : Cursor} {b : Fallible Intent}
    (hstart : loop.startCursor stored = some c) (h : (loop.planFrom c).run.Ends exchanges b) :
    loop.intent.run.Ends (loop.loading (.ok stored) :: exchanges) b := by
  unfold intent
  refine ends_run_bind_iff.2 (.inl ⟨stored, [_], exchanges, rfl, ?_, ?_⟩)
  · exact ends_load_iff.2 ⟨.ok stored, rfl, rfl⟩
  · rw [hstart]
    exact h

/-- A look that counts, right away or after a look that came too early, goes on as it would by
itself. -/
theorem ends_intent_of_approach {stored : Option Cursor} {c : Cursor} {b : Fallible Intent}
    {approach : List (Exchange surroundings)} (happroach : loop.Approach stored c approach)
    (hatOnce : (loop.planFrom c).run.Ends exchanges b)
    (hafterPause : (do
        let height ← loop.confirmedHeight c
        match c.plan height with
        | .ready window => return .deliver c height window
        | .early safeHeight needed => return .wait c safeHeight needed : Crawl Intent).run.Ends
      exchanges b) :
    loop.intent.run.Ends (approach ++ exchanges) b := by
  cases happroach with
  | atOnce hstart => exact ends_intent_of_startCursor hstart hatOnce
  | afterPause first hstart hfirst =>
    exact ends_intent_of_startCursor hstart (ends_planFrom_of_early hfirst hafterPause)

/-- A cycle loads its cursor, and looks at the newest block once or, after a pause, twice. -/
theorem ends_intent_iff {b : Fallible Intent} :
    loop.intent.run.Ends exchanges b ↔ loop.Survey exchanges b := by
  constructor
  · intro h
    unfold intent at h
    obtain ⟨stored, first, rest, rfl, hload, hrest⟩ | ⟨e, hload, rfl⟩ := ends_run_bind_iff.1 h
    · obtain ⟨answer, rfl, heq⟩ := ends_load_iff.1 hload
      cases answer with
      | error e => cases heq
      | ok stored =>
        cases heq
        cases hstart : loop.startCursor stored with
        | none =>
          rw [hstart] at hrest
          obtain ⟨rfl, rfl⟩ := ends_run_pure_iff.1 hrest
          exact .crossed hstart
        | some c =>
          rw [hstart] at hrest
          exact survey_of_ends_planFrom hstart hrest
    · obtain ⟨answer, rfl, heq⟩ := ends_load_iff.1 hload
      cases answer with
      | error e =>
        cases heq
        exact .unloaded e
      | ok stored => cases heq
  · intro hsurvey
    cases hsurvey with
    | unloaded e => exact ends_run_bind_iff.2 (.inr ⟨_, ends_load_iff.2 ⟨.error e, rfl, rfl⟩, rfl⟩)
    | @crossed stored hstart =>
      refine ends_run_bind_iff.2 (.inl ⟨stored, [_], [], rfl, ?_, ?_⟩)
      · exact ends_load_iff.2 ⟨.ok stored, rfl, rfl⟩
      · rw [hstart]
        exact ends_run_pure_iff.2 ⟨rfl, rfl⟩
    | unseen e happroach hclosing =>
      exact ends_intent_of_approach happroach
        (ends_run_look_bind_iff.2 (.inr ⟨e, _, rfl, hclosing, rfl⟩))
        (ends_run_look_bind_iff.2 (.inr ⟨e, _, rfl, hclosing, rfl⟩))
    | ready head happroach hready =>
      have hlate := Int.not_lt.2 hready
      refine ends_intent_of_approach happroach
        (ends_run_look_bind_iff.2 (.inl ⟨head, [], rfl, ?_⟩))
        (ends_run_look_bind_iff.2 (.inl ⟨head, [], rfl, ?_⟩))
      · rw [plan_eq, if_neg hlate]
        exact ends_run_pure_iff.2 ⟨rfl, rfl⟩
      · rw [plan_eq, if_neg hlate]
        exact ends_run_pure_iff.2 ⟨rfl, rfl⟩
    | early first second hstart hfirst hsecond =>
      refine ends_intent_of_startCursor hstart (ends_planFrom_of_early hfirst ?_)
      refine ends_run_look_bind_iff.2 (.inl ⟨second, [], rfl, ?_⟩)
      rw [plan_eq, if_pos hsecond]
      exact ends_run_pure_iff.2 ⟨rfl, rfl⟩

theorem ends_saveCursor_iff {c : Cursor} {b : Fallible Unit} :
    (saveCursor c).run.Ends exchanges b ↔ ∃ saved : Except TableFailure Unit,
      exchanges = [saving c saved] ∧ b = saved.mapError TableFailure.toFailure :=
  Iff.trans Work.ends_fromTable_iff (exists_congr fun _ => and_congr_left' Work.ends_call_iff)

theorem ends_advance_iff {c : Cursor} {safeHeight : Int} {window : Window}
    {b : Fallible CycleEnd} :
    (loop.advance c safeHeight window).run.Ends exchanges b ↔
      (∃ delivering closing cause, exchanges = delivering ++ closing ∧
        (loop.router.deliver (loop.inquiryFor window)).run.Ends delivering (.error cause) ∧
        loop.GivingUp c cause closing ∧ b = .error cause) ∨
      ∃ delivering d, ∃ saved : Except TableFailure Unit,
        exchanges = delivering ++ [saving (loop.stride.past c window) saved] ∧
        (loop.router.deliver (loop.inquiryFor window)).run.Ends delivering (.ok d) ∧
        b = (saved.mapError TableFailure.toFailure).map fun _ =>
          .advanced window d.records.length
            (safeHeight <
              (loop.stride.past c window).height + (loop.stride.past c window).step) := by
  unfold advance
  rw [ends_run_bind_iff]
  constructor
  · rintro (⟨result, delivering, rest, rfl, hlift, hrest⟩ | ⟨e, hlift, -⟩)
    · obtain ⟨_, hdeliver, heq⟩ := Work.ends_lift_iff.1 hlift
      cases heq
      cases result with
      | error cause =>
        obtain ⟨hclosing, rfl⟩ := ends_giveUp_iff.1 hrest
        exact .inl ⟨delivering, rest, cause, rfl, hdeliver, hclosing, rfl⟩
      | ok d =>
        obtain ⟨stored, hsave, rfl⟩ := ends_run_bind_pure_iff.1 hrest
        obtain ⟨saved, rfl, rfl⟩ := ends_saveCursor_iff.1 hsave
        exact .inr ⟨delivering, d, saved, rfl, hdeliver, rfl⟩
    · obtain ⟨_, -, heq⟩ := Work.ends_lift_iff.1 hlift
      cases heq
  · rintro (⟨delivering, closing, cause, rfl, hdeliver, hclosing, rfl⟩ |
      ⟨delivering, d, saved, rfl, hdeliver, rfl⟩)
    · exact .inl ⟨_, delivering, closing, rfl, Work.ends_lift_iff.2 ⟨_, hdeliver, rfl⟩,
        ends_giveUp_iff.2 ⟨hclosing, rfl⟩⟩
    · exact .inl ⟨_, delivering, [_], rfl, Work.ends_lift_iff.2 ⟨_, hdeliver, rfl⟩,
        ends_run_bind_pure_iff.2 ⟨_, ends_saveCursor_iff.2 ⟨saved, rfl, rfl⟩, rfl⟩⟩

/-- What an attempt came to as the end of a cycle. -/
def endOf : Fallible CycleEnd → CycleEnd
  | .ok outcome => outcome
  | .error cause => .failed cause

theorem endOf_saved (saved : Except TableFailure Unit) (outcome : CycleEnd) :
    endOf ((saved.mapError TableFailure.toFailure).map fun _ => outcome) =
      .ifSaved saved outcome := by
  cases saved <;> rfl

theorem ends_cycle_iff_attempt {outcome : CycleEnd} :
    loop.cycle.Ends exchanges outcome ↔
      ∃ result, loop.attempt.run.Ends exchanges result ∧ outcome = endOf result := by
  refine Iff.trans (ends_bind_iff (p := loop.attempt.run)) ?_
  constructor
  · rintro ⟨result, first, rest, rfl, hattempt, hrest⟩
    refine ⟨result, ?_⟩
    cases result with
    | ok outcome =>
      obtain ⟨rfl, rfl⟩ := ends_done_iff.1 hrest
      exact ⟨by simpa using hattempt, rfl⟩
    | error cause =>
      obtain ⟨rfl, rfl⟩ := ends_done_iff.1 hrest
      exact ⟨by simpa using hattempt, rfl⟩
  · rintro ⟨result, hattempt, rfl⟩
    refine ⟨result, exchanges, [], by simp, hattempt, ?_⟩
    cases result <;> exact .nil _

/-- What follows the survey of a cycle carries the intent out. -/
theorem ends_carryOut_of_ends_cycle {survey rest : List (Exchange surroundings)} {intent : Intent}
    {outcome : CycleEnd} (hintent : loop.intent.run.Ends survey (.ok intent))
    (hcycle : loop.cycle.Ends (survey ++ rest) outcome) :
    ∃ result, (loop.carryOut intent).run.Ends rest result ∧ outcome = endOf result := by
  have hattempt : loop.attempt.run.Leads survey (loop.carryOut intent).run :=
    Leads.bind hintent _
  obtain ⟨result, first, last, rfl, hcarry, hlast⟩ :=
    ends_bind_iff.1 ((hattempt.bind _).of_append hcycle)
  have hend : last = [] ∧ outcome = endOf result := by
    cases result with
    | ok => exact ends_done_iff.1 hlast
    | error => exact ends_done_iff.1 hlast
  obtain ⟨rfl, rfl⟩ := hend
  rw [List.append_nil]
  exact ⟨result, hcarry, rfl⟩

/-- A cycle goes one of five ways. -/
theorem ends_cycle_iff {outcome : CycleEnd} :
    loop.cycle.Ends exchanges outcome ↔ loop.Course exchanges outcome := by
  rw [ends_cycle_iff_attempt]
  unfold attempt
  constructor
  · rintro ⟨result, hattempt, rfl⟩
    obtain ⟨intent, survey, rest, rfl, hintent, hrest⟩ | ⟨cause, hintent, rfl⟩ :=
      ends_run_bind_iff.1 hattempt
    · cases intent with
      | deliver c safeHeight window =>
        obtain ⟨delivering, closing, cause, rfl, hdeliver, hclosing, rfl⟩ |
          ⟨delivering, d, saved, rfl, hdeliver, rfl⟩ := ends_advance_iff.1 hrest
        · exact .undelivered hintent hdeliver hclosing
        · rw [endOf_saved]
          exact .delivered hintent hdeliver saved
      | wait c safeHeight needed =>
        obtain ⟨stored, hsave, rfl⟩ := ends_run_bind_pure_iff.1 hrest
        obtain ⟨saved, rfl, rfl⟩ := ends_saveCursor_iff.1 hsave
        rw [endOf_saved]
        exact .waited hintent saved
      | stop =>
        obtain ⟨rfl, rfl⟩ := ends_run_pure_iff.1 hrest
        rw [List.append_nil]
        exact .stopped hintent
    · exact .aimless hintent
  · intro hcourse
    cases hcourse with
    | aimless hintent => exact ⟨_, ends_run_bind_iff.2 (.inr ⟨_, hintent, rfl⟩), rfl⟩
    | stopped hintent =>
      exact ⟨_, ends_run_bind_iff.2 (.inl ⟨_, _, [], by simp, hintent,
        ends_run_pure_iff.2 ⟨rfl, rfl⟩⟩), rfl⟩
    | waited hintent saved =>
      refine ⟨_, ends_run_bind_iff.2 (.inl ⟨_, _, _, rfl, hintent, ends_run_bind_pure_iff.2
        ⟨_, ends_saveCursor_iff.2 ⟨saved, rfl, rfl⟩, rfl⟩⟩), ?_⟩
      rw [endOf_saved]
    | undelivered hintent hdeliver hclosing =>
      exact ⟨_, ends_run_bind_iff.2 (.inl ⟨_, _, _, rfl, hintent,
        ends_advance_iff.2 (.inl ⟨_, _, _, rfl, hdeliver, hclosing, rfl⟩)⟩), rfl⟩
    | delivered hintent hdeliver saved =>
      refine ⟨_, ends_run_bind_iff.2 (.inl ⟨_, _, _, rfl, hintent,
        ends_advance_iff.2 (.inr ⟨_, _, saved, rfl, hdeliver, rfl⟩)⟩), ?_⟩
      rw [endOf_saved]

end Poller

end ChainCrawl
