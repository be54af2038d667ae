import ChainCrawl.Poller.Words
import ChainCrawl.Proofs.Poller.Outcome
import ChainCrawl.Proofs.Proc.Follow

namespace ChainCrawl

open Proc
open Word (minInt64 maxInt64)
open WordCrawl (spared fitting)

namespace Word

theorem held?_of_le {n : Int} (hleast : minInt64 ≤ n) (hgreatest : n ≤ maxInt64) :
    held? n = some n :=
  if_pos ⟨hleast, hgreatest⟩

theorem held?_of_nonneg {n : Int} (hnonneg : 0 ≤ n) (hgreatest : n ≤ maxInt64) :
    held? n = some n :=
  held?_of_le (Int.le_trans (by decide) hnonneg) hgreatest

theorem eq_of_held? {n m : Int} (h : held? n = some m) : m = n := by
  unfold held? at h
  split at h
  · exact (Option.some.inj h).symm
  · cases h

end Word

theorem Finality.eq_under_of_underInWord? {f : Finality} {head height : Int}
    (h : f.underInWord? head = some height) : height = f.under head := by
  obtain ⟨difference, hheld, rfl⟩ := Option.map_eq_some_iff.1 h
  rw [Word.eq_of_held? hheld, Finality.under]

theorem Cursor.eq_plan_of_planInWord? {c : Cursor} {safeHeight : Int} {plan : WindowPlan}
    (h : c.planInWord? safeHeight = some plan) : plan = c.plan safeHeight := by
  obtain ⟨_, -, rfl⟩ := Option.map_eq_some_iff.1 h
  rfl

theorem Stride.eq_past_of_pastInWord? {stride : Stride} {c moved : Cursor} {window : Window}
    (h : stride.pastInWord? c window = some moved) : moved = stride.past c window := by
  obtain ⟨_, -, rfl⟩ := Option.map_eq_some_iff.1 h
  rfl

section Following

variable {α β : Type} {Admitted : Exchange surroundings → Prop} {premise : Prop} {told : α → Prop}

theorem ends_spared_iff {q : Crawl α} {exchanges : List (Exchange surroundings)}
    {b : Option (Fallible α)} :
    (spared q).run.run.Ends exchanges b ↔ ∃ c, q.run.Ends exchanges c ∧ b = some c :=
  ends_bind_done_iff (p := q.run) (g := some)

/-- What reckons with no heights goes as it goes. -/
theorem follows_spared {q : Crawl α}
    (h : premise → ∀ exchanges a, q.run.Ends exchanges (.ok a) →
      (∀ e ∈ exchanges, Admitted e) → told a) :
    Follows Admitted premise told (spared q) q where
  ends hends := by
    obtain ⟨c, hc, heq⟩ := ends_spared_iff.1 hends
    obtain rfl := Option.some.inj heq
    exact hc
  breaksOff hends := by
    obtain ⟨_, -, heq⟩ := ends_spared_iff.1 hends
    cases heq
  goesOn hpremise := by
    intro exchanges b hends hadmitted
    obtain ⟨c, hc, rfl⟩ := ends_spared_iff.1 hends
    refine ⟨c, rfl, fun a ha => ?_⟩
    subst ha
    exact h hpremise exchanges a hc hadmitted

/-- What has been reckoned is what would have been reckoned without bounds. -/
theorem follows_fitting_bind {reckoned : Option β} {x : β} {f : β → WordCrawl α} {q : Crawl α}
    (heq : ∀ y, reckoned = some y → y = x) (hfits : premise → reckoned = some x)
    (hnext : Follows Admitted premise told (f x) q) :
    Follows Admitted premise told (fitting reckoned >>= f) q := by
  cases reckoned with
  | some y =>
    obtain rfl := heq y rfl
    exact hnext
  | none =>
    constructor
    · intro exchanges b hends
      cases (ends_done_iff.1 hends).2
    · intro exchanges hends
      obtain ⟨rfl, -⟩ := ends_done_iff.1 hends
      exact ⟨_, .nil _⟩
    · intro hpremise
      cases hfits hpremise

theorem follows_fitting {reckoned : Option α} {x : α} (heq : ∀ y, reckoned = some y → y = x)
    (hfits : premise → reckoned = some x) (htold : premise → told x) :
    Follows Admitted premise told (fitting reckoned) (pure x : Crawl α) := by
  have h : Follows Admitted premise told (fitting reckoned >>= pure) (pure x : Crawl α) :=
    follows_fitting_bind heq hfits (Follows.pure htold)
  rwa [bind_pure] at h

end Following

/-- A height of the newest block with which the loop of a source can reckon: the confirmed height
under it fits its word, and so does the end of the window after that height. -/
def Source.Reckons (s : Source) (head : Int) : Prop :=
  minInt64 ≤ head - s.confirmations ∧ head - s.confirmations + 1 + s.step ≤ maxInt64

namespace Poller

variable (loop : Poller)

/-- If the exchange tells a height, the loop can reckon with it. -/
def Admits (e : Exchange surroundings) : Prop :=
  ∀ head, headOf? e = some head → loop.source.Reckons head

/-- A cursor whose next window fits its word. -/
structure Placed (c : Cursor) : Prop where
  runnable : loop.source.Runnable
  confirmations_eq : loop.finality.confirmations = loop.source.confirmations
  height_nonneg : 0 ≤ c.height
  one_le_step : 1 ≤ c.step
  last_le : c.height + c.step ≤ maxInt64
  minStep_le : c.minStep ≤ loop.source.step

/-- A window that is to be delivered leaves room for the one after it. -/
def LeavesRoom : Intent → Prop
  | .deliver c _ window =>
    loop.Placed c ∧ window.last = c.height + c.step ∧
      window.last + 1 + loop.source.step ≤ maxInt64
  | _ => True

variable {loop} {c : Cursor}

theorem Placed.lastInWord?_eq (h : loop.Placed c) : c.lastInWord? = some (c.height + c.step) := by
  have hheight := h.height_nonneg
  have hstep := h.one_le_step
  exact Word.held?_of_nonneg (by omega) h.last_le

theorem Placed.planInWord?_eq (h : loop.Placed c) (safeHeight : Int) :
    c.planInWord? safeHeight = some (c.plan safeHeight) := by
  rw [Cursor.planInWord?, h.lastInWord?_eq, Option.map_some]

/-- The loop can reckon with what it is told of the newest block. -/
theorem follows_ask_headHeight :
    Follows loop.Admits (loop.Placed c)
      (fun answer => loop.Placed c ∧ ∀ head, answer = .ok head → loop.source.Reckons head)
      (spared (Work.ask (.headHeight loop.finality.network)))
      (Work.ask (.headHeight loop.finality.network)) := by
  refine follows_spared fun hplaced exchanges answer hends hadmits => ?_
  obtain ⟨_, rfl, heq⟩ := Work.ends_ask_iff.1 hends
  cases heq
  refine ⟨hplaced, fun head hhead => ?_⟩
  subst hhead
  exact hadmits _ List.mem_cons_self head rfl

theorem follows_confirmedHeight :
    Follows loop.Admits (loop.Placed c)
      (fun height => loop.Placed c ∧ (height = 0 ∨ height + 1 + loop.source.step ≤ maxInt64))
      (loop.confirmedHeightInWords c) (loop.confirmedHeight c) := by
  unfold confirmedHeightInWords confirmedHeight
  refine Follows.bind follows_ask_headHeight fun answer => ?_
  cases answer with
  | error e => exact follows_spared fun _ _ a hends => by cases (ends_giveUp_iff.1 hends).2
  | ok head =>
    refine follows_fitting (fun _ => Finality.eq_under_of_underInWord?) ?_ ?_
    · rintro ⟨hplaced, hreckons⟩
      obtain ⟨hleast, hgreatest⟩ := hreckons head rfl
      have hconfirmations := hplaced.confirmations_eq
      have hstep := hplaced.runnable.one_le_step
      rw [Finality.underInWord?, Word.held?_of_le (by omega) (by omega), Option.map_some,
        Finality.under]
    · rintro ⟨hplaced, hreckons⟩
      refine ⟨hplaced, ?_⟩
      have hgreatest := (hreckons head rfl).2
      have hconfirmations := hplaced.confirmations_eq
      dsimp only [Finality.under]
      omega

/-- One look at the newest block, and then either the window or what follows a look that came too
early. -/
theorem follows_look {early : Int → Int → WordCrawl Intent} {early' : Int → Int → Crawl Intent}
    (hearly : ∀ safeHeight needed, Follows loop.Admits (loop.Placed c) loop.LeavesRoom
      (early safeHeight needed) (early' safeHeight needed)) :
    Follows loop.Admits (loop.Placed c) loop.LeavesRoom
      (do
        let height ← loop.confirmedHeightInWords c
        match ← fitting (c.planInWord? height) with
        | .ready window => return .deliver c height window
        | .early safeHeight needed => early safeHeight needed)
      (do
        let height ← loop.confirmedHeight c
        match c.plan height with
        | .ready window => return .deliver c height window
        | .early safeHeight needed => early' safeHeight needed) := by
  refine follows_confirmedHeight.bind fun height => ?_
  refine follows_fitting_bind (fun _ => Cursor.eq_plan_of_planInWord?)
    (fun hheight => hheight.1.planInWord?_eq height) ?_
  rw [plan_eq]
  by_cases hlate : height < c.height + c.step
  · rw [if_pos hlate]
    exact (hearly _ _).of_imp And.left
  · rw [if_neg hlate]
    refine Follows.pure fun ⟨hplaced, hheight⟩ => ⟨hplaced, rfl, ?_⟩
    have hnonneg := hplaced.height_nonneg
    have hstep := hplaced.one_le_step
    dsimp only
    omega

theorem follows_planFrom :
    Follows loop.Admits (loop.Placed c) loop.LeavesRoom (loop.planFromInWords c)
      (loop.planFrom c) := by
  refine follows_look fun _ _ => ?_
  refine Follows.bind (follows_spared fun hplaced _ _ _ _ => hplaced) fun _ => ?_
  exact follows_look fun _ _ => Follows.pure fun _ => trivial

theorem follows_advance {safeHeight : Int} {window : Window} :
    Follows loop.Admits (loop.LeavesRoom (.deliver c safeHeight window)) (fun _ => True)
      (loop.advanceInWords c safeHeight window) (loop.advance c safeHeight window) := by
  unfold advanceInWords advance
  refine Follows.bind (follows_spared fun hroom _ _ _ _ => hroom) fun result => ?_
  cases result with
  | error cause => exact follows_spared fun _ _ _ _ _ => trivial
  | ok d =>
    refine follows_fitting_bind (fun _ => Stride.eq_past_of_pastInWord?) ?_ ?_
    · rintro ⟨hplaced, hlast, hroom⟩
      have hheight := hplaced.height_nonneg
      have hstep := hplaced.one_le_step
      have hnominal := hplaced.runnable.one_le_step
      rw [Stride.pastInWord?, Word.held?_of_nonneg (by omega) (by omega), Option.map_some]
    · refine Follows.bind (follows_spared fun hroom _ _ _ _ => hroom) fun _ => ?_
      refine follows_fitting_bind (fun _ => Word.eq_of_held?) ?_ (Follows.pure fun _ => trivial)
      rintro ⟨hplaced, hlast, hroom⟩
      have hheight := hplaced.height_nonneg
      have hstep := hplaced.one_le_step
      have hmoved : (loop.stride.past c window).height = window.last + 1 :=
        height_past (by omega)
      have hstride := step_past hplaced.runnable hplaced.minStep_le window
      have hnominal := hplaced.runnable.one_le_step
      exact Word.held?_of_nonneg (by omega) (by omega)

theorem follows_carryOut (intent : Intent) :
    Follows loop.Admits (loop.LeavesRoom intent) (fun _ => True) (loop.carryOutInWords intent)
      (loop.carryOut intent) := by
  cases intent with
  | deliver => exact follows_advance
  | wait | stop => exact follows_spared fun _ _ _ _ _ => trivial

/-- What a loop does once its cursor has been loaded. -/
theorem follows_loaded (stored : Option Cursor) :
    Follows loop.Admits (∀ c, loop.startCursor stored = some c → loop.Placed c) (fun _ => True)
      ((match loop.startCursor stored with
        | some c => loop.planFromInWords c
        | none => return .stop) >>= loop.carryOutInWords)
      ((match loop.startCursor stored with
        | some c => loop.planFrom c
        | none => return .stop) >>= loop.carryOut) := by
  refine Follows.bind ?_ follows_carryOut
  cases loop.startCursor stored with
  | none => exact Follows.pure fun _ => trivial
  | some c => exact follows_planFrom.of_imp fun hplaced => hplaced c rfl

theorem follows_attempt :
    Follows loop.Admits False (fun _ => True) loop.attemptInWords loop.attempt := by
  unfold attemptInWords intentInWords attempt intent
  rw [LawfulMonad.bind_assoc, LawfulMonad.bind_assoc]
  exact Follows.bind (follows_spared fun h => h.elim) follows_loaded

variable {exchanges : List (Exchange surroundings)} {t : Tables}

theorem ends_cycleInWords_iff {b : Option CycleEnd} :
    loop.cycleInWords.Ends exchanges b ↔
      ∃ result, loop.attemptInWords.run.run.Ends exchanges result ∧ b = result.map endOf := by
  have hcycle : loop.cycleInWords =
      loop.attemptInWords.run.run.bind fun result => done (result.map endOf) := by
    refine congrArg (loop.attemptInWords.run.run.bind ·) (funext fun result => ?_)
    obtain _ | _ | _ := result <;> rfl
  rw [hcycle, ends_bind_done_iff]

/-- No premise on the loop is needed: this is how every cycle in words goes that has an outcome. -/
theorem ends_cycle_of_ends_cycleInWords {outcome : CycleEnd}
    (h : loop.cycleInWords.Ends exchanges (some outcome)) :
    loop.cycle.Ends exchanges outcome := by
  obtain ⟨result, hattempt, heq⟩ := ends_cycleInWords_iff.1 h
  cases result with
  | none => cases heq
  | some result =>
    exact ends_cycle_iff_attempt.2 ⟨result, follows_attempt.ends hattempt, Option.some.inj heq⟩

/-- A cycle that breaks off is a cycle under way, by what it has exchanged. -/
theorem leads_of_ends_cycleInWords {b : Option CycleEnd}
    (h : loop.cycleInWords.Ends exchanges b) : ∃ q, loop.cycle.Leads exchanges q := by
  cases b with
  | some outcome => exact ⟨_, ends_cycle_of_ends_cycleInWords h⟩
  | none =>
    obtain ⟨result, hattempt, heq⟩ := ends_cycleInWords_iff.1 h
    cases result with
    | some result => cases heq
    | none =>
      obtain ⟨q, hq⟩ := follows_attempt.breaksOff hattempt
      exact ⟨_, hq.bind _⟩

theorem exists_leads_of_leads_cycleInWords {q : Work (Option CycleEnd)}
    (h : loop.cycleInWords.Leads exchanges q) : ∃ q', loop.cycle.Leads exchanges q' := by
  obtain ⟨more, b, hends⟩ := h.exists_ends
  obtain ⟨q', hq'⟩ := leads_of_ends_cycleInWords hends
  exact hq'.exists_of_append

/-- What a cycle in words has changed when it has an outcome. That the heights fit their words is no
premise: where they do not, there is no outcome. -/
theorem changes_of_ends_cycleInWords {config : Config} (hvalid : config.Valid)
    (hsource : loop.source ∈ config.sources) {outcome : CycleEnd}
    (h : loop.cycleInWords.Ends exchanges (some outcome)) (hpermits : t.Permits exchanges) :
    ∃ c, loop.startCursor (loop.storedIn t) = some c ∧ loop.Tells t exchanges c outcome ∧
      (∀ key network, ¬ (key = loop.source.key ∧ network = loop.source.network) →
        (t.run exchanges).cursors.find? key network = t.cursors.find? key network) ∧
      ((t.run exchanges).records = t.records ∨
        ∃ batch, ⟨.addRecords batch, .ok ()⟩ ∈ exchanges ∧
          (t.run exchanges).records = t.records.addBatch batch) :=
  changes_of_ends_cycle (hvalid.runnable hsource) (ends_cycle_of_ends_cycleInWords h) hpermits

/-- A cycle that goes out from a placed cursor does not break off. -/
theorem exists_outcome_of_placed {b : Option CycleEnd}
    (h : loop.cycleInWords.Ends exchanges b) (hpermits : t.Permits exchanges)
    (hadmits : ∀ e ∈ exchanges, loop.Admits e)
    (hplaced : ∀ c, loop.startCursor (loop.storedIn t) = some c → loop.Placed c) :
    ∃ outcome, b = some outcome := by
  obtain ⟨result, hattempt, rfl⟩ := ends_cycleInWords_iff.1 h
  unfold attemptInWords intentInWords at hattempt
  rw [LawfulMonad.bind_assoc] at hattempt
  obtain ⟨stored, first, rest, rfl, hload, hrest⟩ | ⟨e, -, rfl⟩ | ⟨hload, -⟩ :=
    ends_run_run_bind_iff.1 hattempt
  · obtain ⟨_, hload, heq⟩ := ends_spared_iff.1 hload
    cases heq
    obtain ⟨answer, rfl, heq⟩ := ends_load_iff.1 hload
    cases answer with
    | error e => cases heq
    | ok answer =>
      obtain rfl := Except.ok.inj heq
      have hstored : stored = loop.storedIn t := hpermits.1
      obtain ⟨c, rfl, -⟩ := (follows_loaded stored).goesOn (hstored ▸ hplaced) hrest
        fun e he => hadmits e (List.mem_append_right _ he)
      exact ⟨_, rfl⟩
  · exact ⟨_, rfl⟩
  · obtain ⟨_, -, heq⟩ := ends_spared_iff.1 hload
    cases heq

/-- The stored position leaves room for a window of the source's step. -/
theorem placed_of_startCursor {stored : Option Cursor} (hrun : loop.source.Runnable)
    (hconfirmations : loop.finality.confirmations = loop.source.confirmations)
    (hposition : loop.position stored + loop.source.step ≤ maxInt64)
    (hstart : loop.startCursor stored = some c) : loop.Placed c := by
  have hheight := height_of_startCursor hstart
  have hlow : loop.source.startHeight ≤ loop.position stored := startHeight_le_position
  have hstartHeight := hrun.startHeight_nonneg
  have hleast := hrun.one_le_minStep
  obtain ⟨hminStep, hstep⟩ := step_of_startCursor hrun hstart
  refine ⟨hrun, hconfirmations, by omega, by omega, by omega, ?_⟩
  rw [minStep_of_startCursor hstart]
  exact hrun.minStep_le_step

/-- Over a cycle the stored position keeps room for a window of the source's step. -/
theorem position_add_step_le {outcome : CycleEnd} (hrun : loop.source.Runnable)
    (hfinality : loop.finality = .of loop.source.network loop.source.confirmations)
    (h : loop.cycle.Ends exchanges outcome) (hpermits : t.Permits exchanges)
    (hadmits : ∀ e ∈ exchanges, loop.Admits e)
    (hposition : loop.position (loop.storedIn t) + loop.source.step ≤ maxInt64) :
    loop.position (loop.storedIn (t.run exchanges)) + loop.source.step ≤ maxInt64 := by
  have htile := tile_of_ends_cycle hrun h hpermits
  cases hwindow : outcome.window? with
  | none =>
    rw [hwindow] at htile
    have hstays : loop.position (loop.storedIn t) = _ := htile
    rwa [← hstays]
  | some window =>
    rw [hwindow] at htile
    obtain ⟨hfirst, hle, hnext⟩ := htile
    have hmoved : window.last + 1 = _ := hnext
    rw [← hmoved]
    cases outcome with
    | waiting | failed | misconfigured => cases hwindow
    | advanced _ records caughtUp =>
      obtain rfl := Option.some.inj hwindow
      obtain ⟨survey, delivering, c, safeHeight, d, rfl, hintent, -⟩ := delivery_of_advanced h
      obtain ⟨stored, head, approach, rfl, happroach, hready, -, rfl⟩ :=
        approach_of_ends_intent hintent
      have hmem : loop.looking (.ok head) ∈ approach ++ [loop.looking (.ok head)] :=
        List.mem_append_right _ List.mem_cons_self
      obtain ⟨-, hreckons⟩ := hadmits _ (List.mem_append_left _ hmem) head rfl
      have hlow : loop.source.startHeight ≤ loop.position (loop.storedIn t) :=
        startHeight_le_position
      have hstartHeight := hrun.startHeight_nonneg
      have hstep := (step_of_startCursor hrun (startCursor_of_approach happroach)).1
      have hleast := hrun.one_le_minStep
      have hheight : c.height = loop.position (loop.storedIn t) := hfirst
      rw [hfinality] at hready
      have hlast := le_sub_confirmations_of_le_under hrun (by omega) hready
      dsimp only
      omega

theorem ne_misconfigured_of_ends_cycle {outcome : CycleEnd} (hrun : loop.source.Runnable)
    (h : loop.cycle.Ends exchanges outcome) : outcome ≠ .misconfigured := by
  rintro rfl
  generalize hout : CycleEnd.misconfigured = outcome at h
  cases ends_cycle_iff.1 h with
  | aimless | undelivered => cases hout
  | waited _ saved | delivered _ _ saved => cases saved <;> cases hout
  | stopped hintent =>
    cases ends_intent_iff.1 hintent with
    | @crossed stored hstart =>
      obtain ⟨c, hc⟩ := exists_startCursor hrun stored
      rw [hstart] at hc
      cases hc

/-- One cycle after the other goes out from a position with room for a window. -/
theorem exists_outcome_of_ended (hrun : loop.source.Runnable)
    (hfinality : loop.finality = .of loop.source.network loop.source.confirmations)
    {cycles : List (List (Exchange surroundings) × Option CycleEnd)}
    (hended : ∀ x ∈ cycles, loop.cycleInWords.Ends x.1 x.2)
    (hpermits : t.Permits (cycles.flatMap (·.1)))
    (hadmits : ∀ x ∈ cycles, ∀ e ∈ x.1, loop.Admits e)
    (hposition : loop.position (loop.storedIn t) + loop.source.step ≤ maxInt64) :
    ∀ x ∈ cycles, ∃ outcome, x.2 = some outcome := by
  have hconfirmations : loop.finality.confirmations = loop.source.confirmations := by
    have hnonneg := hrun.confirmations_nonneg
    rw [hfinality]
    exact Int.max_eq_left hnonneg
  induction cycles generalizing t with
  | nil =>
    intro x hx
    cases hx
  | cons x rest ih =>
    rw [List.flatMap_cons, Tables.permits_append_iff] at hpermits
    have hx := hended x List.mem_cons_self
    have hadmitsx := hadmits x List.mem_cons_self
    obtain ⟨outcome, houtcome⟩ := exists_outcome_of_placed hx hpermits.1 hadmitsx
      fun c => placed_of_startCursor hrun hconfirmations hposition
    rw [houtcome] at hx
    have hcycle := ends_cycle_of_ends_cycleInWords hx
    intro y hy
    obtain rfl | hy := List.mem_cons.1 hy
    · exact ⟨outcome, houtcome⟩
    · exact ih (fun z hz => hended z (List.mem_cons_of_mem _ hz)) hpermits.2
        (fun z hz => hadmits z (List.mem_cons_of_mem _ hz))
        (position_add_step_le hrun hfinality hcycle hpermits.1 hadmitsx hposition) y hy

/-- A cycle that does not break off goes as a cycle that reckons without bounds; and where the first
window of a source and the windows after the told heights fit their words, no cycle of its loop
breaks off. No premise on how the adapters and the tables answer is needed, and none on the number
of cycles. That a cycle goes as one without bounds needs no premise on the told heights either. -/
theorem outcome_of_cycles_in_words {config : Config} (hvalid : config.Valid) {source : Source}
    (hsource : source ∈ config.sources) (router : Router) {t : Tables}
    (hnone : t.cursors.find? source.key source.network = none)
    {cycles : List (List (Exchange surroundings) × Option CycleEnd)}
    (hended : ∀ x ∈ cycles, (Poller.of source router).cycleInWords.Ends x.1 x.2)
    (hpermits : t.Permits (cycles.flatMap (·.1))) :
    (∀ x ∈ cycles, ∀ outcome, x.2 = some outcome →
      outcome ≠ .misconfigured ∧ (Poller.of source router).cycle.Ends x.1 outcome) ∧
    (source.startHeight + source.step ≤ maxInt64 →
      (∀ x ∈ cycles, ∀ e ∈ x.1, ∀ head, headOf? e = some head → source.Reckons head) →
      ∀ x ∈ cycles, ∃ outcome, x.2 = some outcome) := by
  have hrun := hvalid.runnable hsource
  constructor
  · intro x hx outcome houtcome
    have hends := hended x hx
    rw [houtcome] at hends
    have hcycle := ends_cycle_of_ends_cycleInWords hends
    exact ⟨ne_misconfigured_of_ends_cycle hrun hcycle, hcycle⟩
  · intro hstart hreckons
    refine exists_outcome_of_ended (t := t) hrun rfl hended hpermits hreckons ?_
    have hposition : (Poller.of source router).position
        ((Poller.of source router).storedIn t) = source.startHeight := by
      rw [storedIn]
      exact congrArg (Poller.of source router).position hnone
    rwa [hposition]

/-- The sample source advances over its first window and is throttled in its next cycle. -/
def sampleCycles : List (List (Exchange surroundings) × Option CycleEnd) :=
  [([loading (.of .sample .sample) (.ok none),
      looking (.of .sample .sample) (.ok 121),
      ⟨.fetch ⟨0, "sample"⟩ (inquiryFor (.of .sample .sample) ⟨100, 109⟩), .ok []⟩,
      saving (cursorAt 110 9) (.ok ())],
      some (.advanced ⟨100, 109⟩ 0 true)),
    ([loading (.of .sample .sample) (.ok (some (cursorAt 110 9))),
      looking (.of .sample .sample) (.error (.throttled "slow down")),
      saving (cursorAt 110 2) (.ok ())],
      some (.failed (.throttled "slow down")))]

theorem outcome_of_cycles_in_words_sample :
    Config.sample.Valid ∧ Source.sample ∈ Config.sample.sources ∧
      ({} : Tables).cursors.find? Source.sample.key Source.sample.network = none ∧
      (∀ x ∈ sampleCycles, (Poller.of .sample .sample).cycleInWords.Ends x.1 x.2) ∧
      ({} : Tables).Permits (sampleCycles.flatMap (·.1)) ∧
      Source.sample.startHeight + Source.sample.step ≤ maxInt64 ∧
      (∀ x ∈ sampleCycles, ∀ e ∈ x.1, ∀ head, headOf? e = some head →
        Source.sample.Reckons head) ∧
      (∀ x ∈ sampleCycles, ∀ outcome, x.2 = some outcome →
        outcome ≠ .misconfigured ∧ (Poller.of .sample .sample).cycle.Ends x.1 outcome) ∧
      ∀ x ∈ sampleCycles, ∃ outcome, x.2 = some outcome := by
  have hvalid : Config.sample.Valid := by decide
  have hsource : Source.sample ∈ Config.sample.sources := List.mem_singleton.2 rfl
  have hended : ∀ x ∈ sampleCycles, (Poller.of .sample .sample).cycleInWords.Ends x.1 x.2 := by
    intro x hx
    simp only [sampleCycles, List.mem_cons, List.not_mem_nil, or_false] at hx
    obtain rfl | rfl := hx
    · exact .ask (.ask (.ask (.ask (.nil _))))
    · exact .ask (.ask (.ask (.nil _)))
  have hpermits : ({} : Tables).Permits (sampleCycles.flatMap (·.1)) :=
    ⟨rfl, trivial, trivial, trivial, rfl, trivial, trivial, trivial⟩
  have hstart : Source.sample.startHeight + Source.sample.step ≤ maxInt64 := by decide
  have hreckons : ∀ x ∈ sampleCycles, ∀ e ∈ x.1, ∀ head, headOf? e = some head →
      Source.sample.Reckons head := by
    intro x hx e he head hhead
    simp only [sampleCycles, List.mem_cons, List.not_mem_nil, or_false] at hx
    obtain rfl : head = 121 := by
      obtain rfl | rfl := hx
      all_goals
        simp only [List.mem_cons, List.not_mem_nil, or_false] at he
        rcases he with rfl | rfl | rfl | rfl <;> cases hhead <;> rfl
    exact ⟨by decide, by decide⟩
  obtain ⟨hfollows, hgoesOn⟩ :=
    outcome_of_cycles_in_words hvalid hsource .sample rfl hended hpermits
  exact ⟨hvalid, hsource, rfl, hended, hpermits, hstart, hreckons, hfollows,
    hgoesOn hstart hreckons⟩

/-- A source close to the greatest height. -/
def lastSource : Source :=
  { Source.sample with startHeight := maxInt64 - 10, confirmations := 0 }

/-- With a start, two steps and confirmations like any other a loop breaks off where it is told the
least height there is. And a source may start so high that its first window can still be stored, but
that the end of the next one does not fit its word. -/
theorem cycle_breaks_off :
    Config.sample.Valid ∧ Source.sample ∈ Config.sample.sources ∧
      (Poller.of .sample .sample).cycleInWords.Ends
        [loading (.of .sample .sample) (.ok none), looking (.of .sample .sample) (.ok minInt64)]
        none ∧
      { Config.sample with sources := [lastSource] }.Valid ∧
      (Poller.of lastSource .sample).cycleInWords.Ends
        [loading (.of lastSource .sample) (.ok none),
          looking (.of lastSource .sample) (.ok maxInt64),
          ⟨.fetch ⟨0, "sample"⟩ (inquiryFor (.of lastSource .sample) ⟨maxInt64 - 10, maxInt64 - 1⟩),
            .ok []⟩,
          saving { Cursor.ofSource lastSource with height := maxInt64 } (.ok ())]
        none :=
  ⟨by decide, List.mem_singleton.2 rfl, .ask (.ask (.nil _)), by decide,
    .ask (.ask (.ask (.ask (.nil _))))⟩

end Poller

end ChainCrawl
