import ChainCrawl.Proofs.Poller.Outcome
import ChainCrawl.Proofs.Poller.Words

namespace ChainCrawl

open Proc
open Word (minInt64 maxInt64)

theorem Window.Tile.le {first next : Int} {windows : List Window} (h : Tile first windows next) :
    first ≤ next := by
  induction windows generalizing first with
  | nil => exact Int.le_of_eq h
  | cons w rest ih =>
    obtain ⟨rfl, hle, hrest⟩ := h
    have hnext := ih hrest
    omega

/-- Where windows lie end to end, each height on the way is in exactly one of them. -/
theorem Window.Tile.countP_covers {first next height : Int} {windows : List Window}
    (h : Tile first windows next) :
    windows.countP (·.Covers height) = if first ≤ height ∧ height < next then 1 else 0 := by
  induction windows generalizing first with
  | nil =>
    obtain rfl : first = next := h
    rw [if_neg (by omega)]
    rfl
  | cons w rest ih =>
    obtain ⟨rfl, hle, hrest⟩ := h
    have hnext := hrest.le
    have hcovers : decide (w.Covers height) = true ↔ w.first ≤ height ∧ height ≤ w.last :=
      decide_eq_true_iff
    rw [List.countP_cons, ih hrest]
    simp only [hcovers]
    split <;> split <;> split <;> omega

/-- The exchange is no call that fails, and the newest block stands at a height. An event that
cannot become a record is left out, which is no failure. -/
def GoesWell (head : Int) : Exchange surroundings → Prop
  | ⟨.loadCursor _ _, answer⟩ => ∃ c, answer = .ok c
  | ⟨.saveCursor _, answer⟩ => answer = .ok ()
  | ⟨.headHeight _, answer⟩ => answer = .ok head
  | ⟨.fetch _ _, answer⟩ => ∃ events, answer = .ok events
  | ⟨.recordOf _ _ _, answer⟩ => ∀ e, answer = .error e → e.skipReason? ≠ none
  | ⟨.addRecords _, answer⟩ => answer = .ok ()
  | _ => True

theorem exists_goesWell (head : Int) (t : Tables) (r : WorkRequest) :
    ∃ a : r.Answer, t.Allows ⟨r, a⟩ ∧ GoesWell head ⟨r, a⟩ := by
  cases r with
  | loadCursor key network => exact ⟨.ok (t.cursors.find? key network), rfl, _, rfl⟩
  | visitsAfter after least limit =>
    exact ⟨.ok (t.visits.membersAfter after least limit), rfl, trivial⟩
  | dropVisitsBelow least => exact ⟨.ok (t.visits.dropBelow least).1, rfl, trivial⟩
  | removeVisit member => exact ⟨.ok (t.visits.erase member).1, rfl, trivial⟩
  | visitScore member => exact ⟨.ok (t.visits.scoreOf? member), rfl, trivial⟩
  | visitCount => exact ⟨.ok t.visits.size, rfl, trivial⟩
  | headHeight => exact ⟨.ok head, trivial, rfl⟩
  | fetch => exact ⟨.ok [], trivial, _, rfl⟩
  | recordOf =>
    refine ⟨.error (.malformed ""), trivial, fun e he => ?_⟩
    cases he
    exact Option.some_ne_none _
  | saveCursor | addRecords => exact ⟨.ok (), trivial, rfl⟩
  | upsertVisit => exact ⟨.ok (), trivial, trivial⟩
  | profile => exact ⟨.ok none, trivial, trivial⟩
  | now => exact ⟨(default : Time.Instant), trivial, trivial⟩
  | ticks => exact ⟨(0 : Nat), trivial, trivial⟩
  | sleep | log | yieldTurn => exact ⟨(), trivial, trivial⟩
  | stopRequested => exact ⟨false, trivial, trivial⟩
  | pause => exact ⟨PauseEnd.elapsed, trivial, trivial⟩

namespace Router

variable {router : Router} {inquiry : Inquiry} {adapter : AdapterRef} {head : Int}
  {exchanges : List (Exchange surroundings)}

/-- A served delivery in which no call fails succeeds. -/
theorem exists_ok_of_goesWell {b : Fallible Delivery}
    (hadapter : router.adapterOf inquiry = .ok adapter)
    (h : (router.deliver inquiry).run.Ends exchanges b)
    (hwell : ∀ e ∈ exchanges, GoesWell head e) : ∃ d, b = .ok d := by
  cases b with
  | ok d => exact ⟨d, rfl⟩
  | error e =>
    obtain hfetch | ⟨hnone, event, hmem⟩ | ⟨batch, f, hstoring, -⟩ :=
      failed_call_of_ends_deliver h hadapter
    · obtain ⟨events, heq⟩ := hwell _ hfetch
      cases heq
    · exact absurd hnone (hwell _ hmem e rfl)
    · cases hwell _ hstoring

end Router

namespace Poller

variable {loop : Poller} {t : Tables} {c : Cursor} {head : Int}
  {exchanges survey : List (Exchange surroundings)} {outcome : CycleEnd}

/-- A height of the newest block with which the loop can go on for ever: its source can be run and
is served, and the height fits. -/
structure Fits (loop : Poller) (head : Int) : Prop where
  runnable : loop.source.Runnable
  finality_eq : loop.finality = .of loop.source.network loop.source.confirmations
  serves : loop.router.adapters.serves loop.source.network none
  reckons : loop.source.Reckons head

/-- The position leaves room for a window of the source's step. -/
def HasRoom (loop : Poller) (t : Tables) : Prop :=
  loop.position (loop.storedIn t) + loop.source.step ≤ maxInt64

/-- A cycle in which no call fails, told by what it came to and the windows that it fetched: the
next window is stored if it lies under the confirmed height, and else the step shrinks. -/
inductive Pace (loop : Poller) (safeHeight : Int) (c : Cursor) (after : Tables) :
    CycleEnd → List Window → Prop where
  | advances (records : Nat) (caughtUp : Bool) (hready : c.height + c.step ≤ safeHeight)
      (hstands : loop.Stands after (c.height + c.step + 1) loop.source.step) :
      Pace loop safeHeight c after (.advanced ⟨c.height, c.height + c.step⟩ records caughtUp)
        [⟨c.height, c.height + c.step⟩]
  | waits (hearly : safeHeight < c.height + c.step)
      (hstands : loop.Stands after c.height loop.source.minStep) :
      Pace loop safeHeight c after (.waiting safeHeight (c.height + c.step)) []

theorem Fits.adapterOf (hfits : loop.Fits head) (window : Window) :
    ∃ adapter, loop.router.adapterOf (loop.inquiryFor window) = .ok adapter :=
  AdapterTable.serves_iff.1 hfits.serves

/-- In each of the ways that a cycle can go, either no call fails and the window decides, or some
call fails. -/
theorem pace_of_ends_cycle (hfits : loop.Fits head)
    (hstart : loop.startCursor (loop.storedIn t) = some c)
    (h : loop.cycle.Ends exchanges outcome) (hpermits : t.Permits exchanges)
    (hwell : ∀ e ∈ exchanges, GoesWell head e) :
    loop.Pace (loop.finality.under head) c (t.run exchanges) outcome
      (exchanges.filterMap fetchedWindow?) := by
  have htells := tells_of_ends_cycle hfits.runnable hstart h hpermits
  cases ends_cycle_iff.1 h with
  | aimless hintent =>
    cases ends_intent_iff.1 hintent with
    | unloaded e =>
      obtain ⟨c, heq⟩ := hwell _ List.mem_cons_self
      cases heq
    | unseen e =>
      have heq : (.error e : Fallible Int) = .ok head :=
        hwell _ (List.mem_append_right _ List.mem_cons_self)
      cases heq
  | stopped => exact htells.elim
  | waited hintent saved =>
    cases ends_intent_iff.1 hintent with
    | @early stored c' first second hstart' hfirst hsecond =>
      obtain rfl : saved = .ok () := hwell _ (List.mem_append_right _ List.mem_cons_self)
      obtain ⟨hstands, hneeded, hearly⟩ := htells
      have hlook : (.ok second : Fallible Int) = .ok head := by
        refine hwell (loop.looking (.ok second)) (List.mem_append_left _ ?_)
        simp
      obtain rfl := Except.ok.inj hlook
      rw [hneeded] at hearly ⊢
      exact .waits hearly hstands
  | @undelivered _ _ _ _ _ window _ hintent hdeliver =>
    obtain ⟨adapter, hadapter⟩ := hfits.adapterOf window
    obtain ⟨d, heq⟩ := Router.exists_ok_of_goesWell hadapter hdeliver fun e he =>
      hwell e (List.mem_append_right _ (List.mem_append_left _ he))
    cases heq
  | delivered hintent hdeliver saved =>
    obtain ⟨stored, head', approach, rfl, happroach, hready, -, rfl⟩ :=
      approach_of_ends_intent hintent
    obtain ⟨rfl, -⟩ := eq_of_ends_intent_deliver hstart hintent hpermits
    obtain rfl : saved = .ok () :=
      hwell _ (List.mem_append_right _ (List.mem_append_right _ List.mem_cons_self))
    have hlook : (.ok head' : Fallible Int) = .ok head :=
      hwell (loop.looking (.ok head'))
        (List.mem_append_left _ (List.mem_append_right _ List.mem_cons_self))
    obtain rfl := Except.ok.inj hlook
    have hfetched := fetchedWindows_of_advanced h
    rw [hfetched]
    exact .advances _ _ hready htells.2

section Pace

variable {safeHeight : Int} {after : Tables} {windows : List Window}

/-- The windows of one cycle lie from the position before it to the position after it. -/
theorem Pace.tile (h : loop.Pace safeHeight c after outcome windows)
    (hrun : loop.source.Runnable) (hstart : loop.startCursor (loop.storedIn t) = some c) :
    Window.Tile (loop.position (loop.storedIn t)) windows
      (loop.position (loop.storedIn after)) := by
  have hheight := height_of_startCursor hstart
  have hlow : loop.source.startHeight ≤ c.height := hheight ▸ startHeight_le_position
  have hstep := (step_of_startCursor hrun hstart).1
  have hleast := hrun.one_le_minStep
  rw [← hheight]
  cases h with
  | advances _ _ _ hstands =>
    refine ⟨rfl, ?_, (position_of_stands hstands ?_).symm⟩
    · dsimp only
      omega
    · omega
  | waits _ hstands => exact (position_of_stands hstands hlow).symm

/-- Where not even the smallest window fits under the confirmed height, a cycle waits. -/
theorem Pace.waits_of_lt (h : loop.Pace safeHeight c after outcome windows)
    (hrun : loop.source.Runnable) (hstart : loop.startCursor (loop.storedIn t) = some c)
    (hlate : safeHeight < loop.position (loop.storedIn t) + loop.source.minStep) :
    (∃ needed, outcome = .waiting safeHeight needed) ∧
      loop.position (loop.storedIn after) = loop.position (loop.storedIn t) := by
  have hheight := height_of_startCursor hstart
  have hlow : loop.source.startHeight ≤ c.height := hheight ▸ startHeight_le_position
  have hstep := (step_of_startCursor hrun hstart).1
  cases h with
  | advances _ _ hready _ => omega
  | waits _ hstands =>
    refine ⟨⟨_, rfl⟩, ?_⟩
    rw [position_of_stands hstands hlow, hheight]

end Pace

/-- Cycles of a loop one after the other, from given tables, in which no call fails while the
newest block stays where it is. A cycle may break off. -/
structure RunsWell (loop : Poller) (t : Tables) (head : Int)
    (cycles : List (List (Exchange surroundings) × Option CycleEnd)) : Prop where
  ended : ∀ x ∈ cycles, loop.cycleInWords.Ends x.1 x.2
  permitted : t.Permits (cycles.flatMap (·.1))
  goesWell : ∀ x ∈ cycles, ∀ e ∈ x.1, GoesWell head e

def positionAfter (loop : Poller) (t : Tables)
    (cycles : List (List (Exchange surroundings) × Option CycleEnd)) : Int :=
  loop.position (loop.storedIn (t.run (cycles.flatMap (·.1))))

/-- The windows that cycles have fetched, in their order. -/
def fetchedWindows (cycles : List (List (Exchange surroundings) × Option CycleEnd)) :
    List Window :=
  cycles.flatMap (·.1.filterMap fetchedWindow?)

variable {cycles first rest : List (List (Exchange surroundings) × Option CycleEnd)}
  {x y : List (Exchange surroundings) × Option CycleEnd}

theorem runsWell_append_iff :
    loop.RunsWell t head (first ++ rest) ↔
      loop.RunsWell t head first ∧ loop.RunsWell (t.run (first.flatMap (·.1))) head rest := by
  constructor
  · rintro ⟨hended, hpermitted, hwell⟩
    rw [List.flatMap_append, Tables.permits_append_iff] at hpermitted
    rw [List.forall_mem_append] at hended hwell
    exact ⟨⟨hended.1, hpermitted.1, hwell.1⟩, ⟨hended.2, hpermitted.2, hwell.2⟩⟩
  · rintro ⟨⟨hended, hpermitted, hwell⟩, ⟨hended', hpermitted', hwell'⟩⟩
    refine ⟨List.forall_mem_append.2 ⟨hended, hended'⟩, ?_,
      List.forall_mem_append.2 ⟨hwell, hwell'⟩⟩
    rw [List.flatMap_append]
    exact Tables.permits_append_iff.2 ⟨hpermitted, hpermitted'⟩

theorem positionAfter_append (first rest : List (List (Exchange surroundings) × Option CycleEnd)) :
    loop.positionAfter t (first ++ rest) =
      loop.positionAfter (t.run (first.flatMap (·.1))) rest := by
  rw [positionAfter, List.flatMap_append, Tables.run_append, positionAfter]

theorem admits_of_goesWell (hfits : loop.Fits head) {e : Exchange surroundings}
    (h : GoesWell head e) : loop.Admits e := by
  intro told htold
  obtain ⟨r, answer⟩ := e
  cases r with
  | headHeight =>
    obtain rfl : answer = .ok head := h
    obtain rfl := Option.some.inj htold
    exact hfits.reckons
  | _ => cases htold

/-- The first of cycles that run well keeps the loop's pace, and leaves room for those after it. -/
theorem RunsWell.pace (hfits : loop.Fits head) (hroom : loop.HasRoom t)
    (h : loop.RunsWell t head (x :: rest)) :
    ∃ c outcome, loop.startCursor (loop.storedIn t) = some c ∧ x.2 = some outcome ∧
      loop.Pace (loop.finality.under head) c (t.run x.1) outcome
        (x.1.filterMap fetchedWindow?) ∧
      loop.HasRoom (t.run x.1) ∧ loop.RunsWell (t.run x.1) head rest := by
  have hcons : loop.RunsWell t head ([x] ++ rest) := h
  obtain ⟨⟨hended, hpermitted, hwell⟩, hrest⟩ := runsWell_append_iff.1 hcons
  rw [List.flatMap_cons, List.flatMap_nil, List.append_nil] at hpermitted hrest
  have hx := hended x List.mem_cons_self
  have hwellx := hwell x List.mem_cons_self
  have hadmits : ∀ e ∈ x.1, loop.Admits e := fun e he => admits_of_goesWell hfits (hwellx e he)
  have hconfirmations : loop.finality.confirmations = loop.source.confirmations := by
    rw [hfits.finality_eq]
    exact Int.max_eq_left hfits.runnable.confirmations_nonneg
  obtain ⟨outcome, houtcome⟩ := exists_outcome_of_placed hx hpermitted hadmits
    fun c => placed_of_startCursor hfits.runnable hconfirmations hroom
  rw [houtcome] at hx
  have hcycle := ends_cycle_of_ends_cycleInWords hx
  obtain ⟨c, hstart⟩ := exists_startCursor hfits.runnable (loop.storedIn t)
  exact ⟨c, outcome, hstart, houtcome, pace_of_ends_cycle hfits hstart hcycle hpermitted hwellx,
    position_add_step_le hfits.runnable hfits.finality_eq hcycle hpermitted hadmits hroom, hrest⟩

/-- Every cycle of a run that goes well has an outcome, and its windows lie end to end from the
position before it to the position after it. -/
theorem RunsWell.tile (hfits : loop.Fits head) (hroom : loop.HasRoom t)
    (h : loop.RunsWell t head cycles) :
    (∀ x ∈ cycles, x.2 ≠ none) ∧
      Window.Tile (loop.position (loop.storedIn t)) (fetchedWindows cycles)
        (loop.positionAfter t cycles) := by
  induction cycles generalizing t with
  | nil => exact ⟨by simp, rfl⟩
  | cons x rest ih =>
    obtain ⟨c, outcome, hstart, houtcome, hpace, hroom', hrest⟩ := h.pace hfits hroom
    obtain ⟨houtcomes, htile⟩ := ih hroom' hrest
    constructor
    · refine List.forall_mem_cons.2 ⟨?_, houtcomes⟩
      rw [houtcome]
      exact Option.some_ne_none _
    · have hfirst := hpace.tile hfits.runnable hstart
      rw [fetchedWindows, List.flatMap_cons, positionAfter, List.flatMap_cons, Tables.run_append]
      exact hfirst.append htile

theorem RunsWell.hasRoom (hfits : loop.Fits head) (hroom : loop.HasRoom t)
    (h : loop.RunsWell t head cycles) : loop.HasRoom (t.run (cycles.flatMap (·.1))) := by
  induction cycles generalizing t with
  | nil => exact hroom
  | cons x rest ih =>
    obtain ⟨c, outcome, -, -, -, hroom', hrest⟩ := h.pace hfits hroom
    rw [List.flatMap_cons, Tables.run_append]
    exact ih hroom' hrest

/-- Two cycles store one window at least: the second has the smallest step if the first waited. -/
theorem RunsWell.gains (hfits : loop.Fits head) (hroom : loop.HasRoom t)
    (h : loop.RunsWell t head [x, y])
    (hbehind : loop.position (loop.storedIn t) + loop.source.minStep ≤
      loop.finality.under head) :
    loop.position (loop.storedIn t) + loop.source.minStep + 1 ≤ loop.positionAfter t [x, y] := by
  have hrun := hfits.runnable
  obtain ⟨c, outcome, hstart, -, hpace, hroom', hrest⟩ := h.pace hfits hroom
  obtain ⟨c', outcome', hstart', -, hpace', -, -⟩ := hrest.pace hfits hroom'
  have hnext := hpace'.tile hrun hstart'
  have hheight := height_of_startCursor hstart
  have hlow : loop.source.startHeight ≤ c.height := hheight ▸ startHeight_le_position
  have hstep := (step_of_startCursor hrun hstart).1
  have hleast := hrun.one_le_minStep
  have hafter : loop.positionAfter t [x, y] =
      loop.position (loop.storedIn ((t.run x.1).run y.1)) := by
    simp [positionAfter, Tables.run_append]
  rw [hafter, ← hheight]
  rw [← hheight] at hbehind
  generalize x.1.filterMap fetchedWindow? = windows at hpace
  generalize y.1.filterMap fetchedWindow? = windows' at hpace'
  cases hpace with
  | advances _ _ _ hstands =>
    have hmoved := position_of_stands hstands (by omega)
    have hle := hnext.le
    omega
  | waits _ hstands =>
    have hstays := position_of_stands hstands hlow
    have hheight' := height_of_startCursor hstart'
    have hshrunk := step_of_stands hstands hstart' (Int.le_refl _) hrun.minStep_le_step
    cases hpace' with
    | advances _ _ _ hstands' =>
      rw [position_of_stands hstands' (by omega)]
      omega
    | waits hearly => omega

/-- Once the smallest window does not fit under the confirmed height, the loop waits for ever. -/
theorem RunsWell.stays (hfits : loop.Fits head) (hroom : loop.HasRoom t)
    (h : loop.RunsWell t head cycles)
    (hlate : loop.finality.under head <
      loop.position (loop.storedIn t) + loop.source.minStep) :
    (∀ x ∈ cycles, ∃ needed, x.2 = some (.waiting (loop.finality.under head) needed)) ∧
      loop.positionAfter t cycles = loop.position (loop.storedIn t) := by
  induction cycles generalizing t with
  | nil => exact ⟨by simp, rfl⟩
  | cons x rest ih =>
    obtain ⟨c, outcome, hstart, houtcome, hpace, hroom', hrest⟩ := h.pace hfits hroom
    obtain ⟨⟨needed, rfl⟩, hposition⟩ := hpace.waits_of_lt hfits.runnable hstart hlate
    obtain ⟨hwaits, hstays⟩ := ih hroom' hrest (by rwa [hposition])
    refine ⟨List.forall_mem_cons.2 ⟨⟨needed, houtcome⟩, hwaits⟩, ?_⟩
    rw [positionAfter, List.flatMap_cons, Tables.run_append]
    exact hstays.trans hposition

/-- The blocks under the confirmed height that are left to the loop, less the smallest window. -/
def backlog (loop : Poller) (t : Tables) (head : Int) : Nat :=
  (loop.finality.under head + 1 - loop.source.minStep - loop.position (loop.storedIn t)).toNat

/-- Two cycles for each block that is left are enough. -/
theorem RunsWell.arrives (hfits : loop.Fits head) (hroom : loop.HasRoom t)
    (h : loop.RunsWell t head cycles) (henough : 2 * loop.backlog t head ≤ cycles.length) :
    loop.finality.under head < loop.positionAfter t cycles + loop.source.minStep := by
  generalize hn : loop.backlog t head = n at henough
  induction n using Nat.strongRecOn generalizing t cycles with
  | ind n ih =>
    by_cases hlate : loop.finality.under head <
        loop.position (loop.storedIn t) + loop.source.minStep
    · rwa [(h.stays hfits hroom hlate).2]
    · have hleast := hfits.runnable.one_le_minStep
      unfold backlog at hn
      match cycles, h, henough with
      | [], _, henough | [_], _, henough =>
        simp only [List.length_nil, List.length_cons] at henough
        omega
      | x :: y :: rest, h, henough =>
        have hcons : loop.RunsWell t head ([x, y] ++ rest) := h
        obtain ⟨hpair, hrest⟩ := runsWell_append_iff.1 hcons
        have hgains := hpair.gains hfits hroom (by omega)
        have hroom' := hpair.hasRoom hfits hroom
        rw [positionAfter] at hgains
        simp only [List.length_cons] at henough
        have hless : loop.backlog (t.run ([x, y].flatMap (·.1))) head < n := by
          unfold backlog
          omega
        have hreached := ih _ hless hroom' hrest rfl (by omega)
        rwa [← positionAfter_append] at hreached

/-- The loop can go on however long it has run. -/
theorem RunsWell.extends (h : loop.RunsWell t head cycles) :
    ∃ x, loop.RunsWell t head (cycles ++ [x]) := by
  obtain ⟨exchanges, outcome, hends, hpermits, hwell⟩ := Work.exists_permitted
    (exists_goesWell head) loop.cycleInWords (t.run (cycles.flatMap (·.1)))
  refine ⟨(exchanges, outcome), runsWell_append_iff.2 ⟨h, ?_, ?_, ?_⟩⟩
  · simpa using hends
  · simpa using hpermits
  · simpa using hwell

/-- How a loop catches up from given tables while the newest block stays where it is. -/
structure CatchesUp (loop : Poller) (t : Tables) (head : Int) : Prop where
  /-- After any cycles there can be one more. -/
  goesOn : ∀ cycles, loop.RunsWell t head cycles → ∃ x, loop.RunsWell t head (cycles ++ [x])
  /-- No cycle breaks off. -/
  hasOutcome : ∀ cycles, loop.RunsWell t head cycles → ∀ x ∈ cycles, x.2 ≠ none
  /-- While the smallest window fits under the confirmed height, any two cycles move the position
  by more than that window. -/
  gains : ∀ before x y, loop.RunsWell t head (before ++ [x, y]) →
    loop.positionAfter t before + loop.source.minStep ≤ loop.finality.under head →
    loop.positionAfter t before + loop.source.minStep + 1 ≤
      loop.positionAfter t (before ++ [x, y])
  /-- Two cycles for each block that is left are enough to catch up. -/
  arrives : ∀ cycles, loop.RunsWell t head cycles → 2 * loop.backlog t head ≤ cycles.length →
    loop.finality.under head < loop.positionAfter t cycles + loop.source.minStep
  /-- After the loop has caught up, every cycle waits and leaves the position alone. -/
  stays : ∀ before rest, loop.RunsWell t head (before ++ rest) →
    loop.finality.under head < loop.positionAfter t before + loop.source.minStep →
    (∀ x ∈ rest, ∃ needed, x.2 = some (.waiting (loop.finality.under head) needed)) ∧
      loop.positionAfter t (before ++ rest) = loop.positionAfter t before
  /-- Each height from the first position to the last is in exactly one fetched window, and no
  other height is in any. -/
  covers : ∀ cycles, loop.RunsWell t head cycles → ∀ height,
    (fetchedWindows cycles).countP (·.Covers height) =
      if loop.position (loop.storedIn t) ≤ height ∧ height < loop.positionAfter t cycles then 1
      else 0

/-- Where no call fails, all heights fit their words and the newest block stays where it is, two
cycles move the position by more than the smallest window; so after a bounded number of cycles not
even the smallest window fits under the confirmed height, and from then on the loop waits. No
premise on what is stored is needed but that the next windows fit their words: the cursor may be
missing, or have been stored under other settings. -/
theorem catches_up_and_stays {config : Config} (hvalid : config.Valid) {source : Source}
    (hsource : source ∈ config.sources) {router : Router}
    (hserves : router.adapters.serves source.network none) {head : Int}
    (hreckons : source.Reckons head) {t : Tables}
    (hroom : (Poller.of source router).position ((Poller.of source router).storedIn t) +
      source.step ≤ maxInt64) :
    (Poller.of source router).CatchesUp t head := by
  have hfits : (Poller.of source router).Fits head :=
    ⟨hvalid.runnable hsource, rfl, hserves, hreckons⟩
  constructor
  · intro cycles h
    exact h.extends
  · intro cycles h
    exact (h.tile hfits hroom).1
  · intro before x y h hbehind
    obtain ⟨hbefore, hpair⟩ := runsWell_append_iff.1 h
    rw [positionAfter_append]
    exact hpair.gains hfits (hbefore.hasRoom hfits hroom) hbehind
  · intro cycles h henough
    exact h.arrives hfits hroom henough
  · intro before rest h hlate
    obtain ⟨hbefore, hrest⟩ := runsWell_append_iff.1 h
    rw [positionAfter_append]
    exact hrest.stays hfits (hbefore.hasRoom hfits hroom) hlate
  · intro cycles h height
    exact (h.tile hfits hroom).2.countP_covers

/-- The sample source waits, stores its smallest window, and does so once more; then it has caught
up. -/
def sampleProgress : List (List (Exchange surroundings) × Option CycleEnd) :=
  [([loading (.of .sample .sample) (.ok none), looking (.of .sample .sample) (.ok 118),
      ⟨.sleep 1000, ()⟩, looking (.of .sample .sample) (.ok 118), saving (cursorAt 100 2) (.ok ())],
      some (.waiting 106 109)),
    ([loading (.of .sample .sample) (.ok (some (cursorAt 100 2))),
      looking (.of .sample .sample) (.ok 118),
      ⟨.fetch ⟨0, "sample"⟩ (inquiryFor (.of .sample .sample) ⟨100, 102⟩), .ok []⟩,
      saving (cursorAt 103 9) (.ok ())],
      some (.advanced ⟨100, 102⟩ 0 true)),
    ([loading (.of .sample .sample) (.ok (some (cursorAt 103 9))),
      looking (.of .sample .sample) (.ok 118), ⟨.sleep 1000, ()⟩,
      looking (.of .sample .sample) (.ok 118), saving (cursorAt 103 2) (.ok ())],
      some (.waiting 106 112)),
    ([loading (.of .sample .sample) (.ok (some (cursorAt 103 2))),
      looking (.of .sample .sample) (.ok 118),
      ⟨.fetch ⟨0, "sample"⟩ (inquiryFor (.of .sample .sample) ⟨103, 105⟩), .ok []⟩,
      saving (cursorAt 106 9) (.ok ())],
      some (.advanced ⟨103, 105⟩ 0 true))]

theorem runsWell_sampleProgress :
    (Poller.of .sample .sample).RunsWell {} 118 sampleProgress where
  ended := by
    intro x hx
    simp only [sampleProgress, List.mem_cons, List.not_mem_nil, or_false] at hx
    rcases hx with rfl | rfl | rfl | rfl
    · exact .ask (.ask (.ask (.ask (.ask (.nil _)))))
    · exact .ask (.ask (.ask (.ask (.nil _))))
    · exact .ask (.ask (.ask (.ask (.ask (.nil _)))))
    · exact .ask (.ask (.ask (.ask (.nil _))))
  permitted := ⟨rfl, trivial, trivial, trivial, trivial, rfl, trivial, trivial, trivial, rfl,
    trivial, trivial, trivial, trivial, rfl, trivial, trivial, trivial, trivial⟩
  goesWell := by
    simp [sampleProgress, GoesWell, loading, looking, saving]

theorem catches_up_and_stays_sample :
    Config.sample.Valid ∧ Source.sample ∈ Config.sample.sources ∧
      Router.sample.adapters.serves Source.sample.network none ∧ Source.sample.Reckons 118 ∧
      (Poller.of .sample .sample).position ((Poller.of .sample .sample).storedIn {}) +
        Source.sample.step ≤ maxInt64 ∧
      (Poller.of .sample .sample).RunsWell {} 118 sampleProgress ∧
      fetchedWindows sampleProgress = [⟨100, 102⟩, ⟨103, 105⟩] ∧
      (Poller.of .sample .sample).positionAfter {} sampleProgress = 106 ∧
      (Poller.of .sample .sample).CatchesUp {} 118 := by
  have hvalid : Config.sample.Valid := by decide
  have hsource : Source.sample ∈ Config.sample.sources := List.mem_singleton.2 rfl
  have hserves : Router.sample.adapters.serves Source.sample.network none := by decide
  have hreckons : Source.sample.Reckons 118 := ⟨by decide, by decide⟩
  have hroom : (Poller.of .sample .sample).position ((Poller.of .sample .sample).storedIn {}) +
      Source.sample.step ≤ maxInt64 := by decide
  exact ⟨hvalid, hsource, hserves, hreckons, hroom, runsWell_sampleProgress, by decide, by decide,
    catches_up_and_stays hvalid hsource hserves hreckons hroom⟩

/-- Close to the greatest height a loop that is behind breaks off where it should have stored the
next window; and a loop that has caught up breaks off where it should have waited, if it is told the
least height there is. No call fails in either. -/
theorem breaks_off_on_the_way :
    { Config.sample with sources := [lastSource] }.Valid ∧
      (Poller.of lastSource .sample).position ((Poller.of lastSource .sample).storedIn {}) +
        lastSource.minStep ≤ (Poller.of lastSource .sample).finality.under maxInt64 ∧
      (∃ exchanges, (Poller.of lastSource .sample).RunsWell {} maxInt64 [(exchanges, none)]) ∧
      Config.sample.Valid ∧ Source.sample ∈ Config.sample.sources ∧
      (Poller.of .sample .sample).finality.under minInt64 <
        (Poller.of .sample .sample).position ((Poller.of .sample .sample).storedIn {}) +
          Source.sample.minStep ∧
      ∃ exchanges, (Poller.of .sample .sample).RunsWell {} minInt64 [(exchanges, none)] := by
  let near : List (Exchange surroundings) :=
    [loading (.of lastSource .sample) (.ok none), looking (.of lastSource .sample) (.ok maxInt64),
      ⟨.fetch ⟨0, "sample"⟩ (inquiryFor (.of lastSource .sample) ⟨maxInt64 - 10, maxInt64 - 1⟩),
        .ok []⟩,
      saving { Cursor.ofSource lastSource with height := maxInt64 } (.ok ())]
  let far : List (Exchange surroundings) :=
    [loading (.of .sample .sample) (.ok none), looking (.of .sample .sample) (.ok minInt64)]
  have hnear : (Poller.of lastSource .sample).RunsWell {} maxInt64 [(near, none)] := by
    refine ⟨List.forall_mem_singleton.2 (.ask (.ask (.ask (.ask (.nil _))))),
      ⟨rfl, trivial, trivial, trivial, trivial⟩, ?_⟩
    simp [near, GoesWell, loading, looking, saving]
  have hfar : (Poller.of .sample .sample).RunsWell {} minInt64 [(far, none)] := by
    refine ⟨List.forall_mem_singleton.2 (.ask (.ask (.nil _))), ⟨rfl, trivial, trivial⟩, ?_⟩
    simp [far, GoesWell, loading, looking]
  exact ⟨by decide, by decide, ⟨near, hnear⟩, by decide, List.mem_singleton.2 rfl, by decide,
    ⟨far, hfar⟩⟩

end Poller

end ChainCrawl
