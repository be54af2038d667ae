import ChainCrawl.Proofs.Poller.Cycle
import ChainCrawl.Proofs.Poller.Start

namespace ChainCrawl

/-- The height of the newest block, where an exchange tells it. -/
def headOf? : Exchange surroundings → Option Int
  | ⟨.headHeight _, .ok head⟩ => some head
  | _ => none

/-- The height of the newest block as exchanges told it last. -/
def lastHead? (exchanges : List (Exchange surroundings)) : Option Int :=
  (exchanges.filterMap headOf?).getLast?

theorem headOf?_eq_none {e : Exchange surroundings} (h : ∀ network, e.1 ≠ .headHeight network) :
    headOf? e = none := by
  unfold headOf?
  split
  · exact absurd rfl (h _)
  · rfl

theorem lastHead?_append_of_forall {told rest : List (Exchange surroundings)}
    (h : ∀ e ∈ rest, ∀ network, e.1 ≠ .headHeight network) :
    lastHead? (told ++ rest) = lastHead? told := by
  have hrest : rest.filterMap headOf? = [] :=
    List.filterMap_eq_nil_iff.2 fun e he => headOf?_eq_none (h e he)
  rw [lastHead?, List.filterMap_append, hrest, List.append_nil, lastHead?]

namespace Poller

open Proc

variable (loop : Poller)

/-- The exchanges of a cycle, perhaps of one that is still under way, in which a window has been
handed over for delivery. -/
def HandsOver (exchanges : List (Exchange surroundings)) (window : Window) : Prop :=
  (∃ q, loop.cycle.Leads exchanges q) ∧
    ∃ survey rest c safeHeight, exchanges = survey ++ rest ∧
      loop.intent.run.Ends survey (.ok (.deliver c safeHeight window))

variable {loop} {exchanges survey rest : List (Exchange surroundings)}

theorem lastHead?_append_looking (approach : List (Exchange surroundings)) (head : Int) :
    lastHead? (approach ++ [loop.looking (.ok head)]) = some head := by
  simp [lastHead?, looking, headOf?]

/-- A window is handed over by a ready survey only. -/
theorem approach_of_ends_intent {c : Cursor} {safeHeight : Int} {window : Window}
    (h : loop.intent.run.Ends survey (.ok (.deliver c safeHeight window))) :
    ∃ stored head approach, survey = approach ++ [loop.looking (.ok head)] ∧
      loop.Approach stored c approach ∧ c.height + c.step ≤ loop.finality.under head ∧
      safeHeight = loop.finality.under head ∧ window = ⟨c.height, c.height + c.step⟩ := by
  cases ends_intent_iff.1 h with
  | @ready stored c approach head happroach hready =>
    exact ⟨stored, head, approach, rfl, happroach, hready, rfl, rfl⟩

theorem startCursor_of_approach {stored : Option Cursor} {c : Cursor}
    (h : loop.Approach stored c exchanges) : loop.startCursor stored = some c := by
  cases h with
  | atOnce hstart => exact hstart
  | afterPause _ hstart _ => exact hstart

/-- A cursor that is loaded is the one that is stored. -/
theorem stored_of_approach {stored : Option Cursor} {c : Cursor} {t : Tables}
    (h : loop.Approach stored c exchanges) (hpermits : t.Permits (exchanges ++ rest)) :
    stored = t.cursors.find? loop.source.key loop.source.network := by
  cases h with
  | atOnce => exact hpermits.1
  | afterPause => exact hpermits.1

/-- What follows the survey of a cycle that is under way is the beginning of what carries the
intent out. -/
theorem exists_ends_carryOut {intent : Intent} {q : Work CycleEnd}
    (hintent : loop.intent.run.Ends survey (.ok intent))
    (hcycle : loop.cycle.Leads (survey ++ rest) q) :
    ∃ more result, (loop.carryOut intent).run.Ends (rest ++ more) result := by
  obtain ⟨more, outcome, hends⟩ := hcycle.exists_ends
  rw [List.append_assoc] at hends
  obtain ⟨result, hcarry, -⟩ := ends_carryOut_of_ends_cycle hintent hends
  exact ⟨more, result, hcarry⟩

/-- A delivery and what follows it ask for no height. -/
theorem request_ne_headHeight_of_ends_advance {c : Cursor} {safeHeight : Int} {window : Window}
    {b : Fallible CycleEnd} (h : (loop.advance c safeHeight window).run.Ends exchanges b) :
    ∀ e ∈ exchanges, ∀ network, e.1 ≠ .headHeight network := by
  have hdelivering {delivering : List (Exchange surroundings)} {d : Fallible Delivery}
      (hdeliver : (loop.router.deliver (loop.inquiryFor window)).run.Ends delivering d) :
      ∀ e ∈ delivering, ∀ network, e.1 ≠ .headHeight network := by
    intro e he network heq
    rcases Router.request_of_ends_deliver hdeliver e he with hread | ⟨batch, hbatch⟩
    · rw [heq] at hread
      exact hread
    · rw [heq] at hbatch
      cases hbatch
  intro e he network heq
  obtain ⟨delivering, closing, cause, rfl, hdeliver, hclosing, -⟩ |
    ⟨delivering, d, saved, rfl, hdeliver, -⟩ := ends_advance_iff.1 h
  · obtain he | he := List.mem_append.1 he
    · exact hdelivering hdeliver e he network heq
    · obtain hsave | ⟨entry, hlog⟩ := request_of_givingUp hclosing e he
      · rw [heq] at hsave
        cases hsave
      · rw [heq] at hlog
        cases hlog
  · obtain he | he := List.mem_append.1 he
    · exact hdelivering hdeliver e he network heq
    · obtain rfl := List.mem_singleton.1 he
      cases heq

/-- A position at or above a start that is not negative has its window end above the floor under
the confirmed height, so the floor lets nothing through. -/
theorem le_sub_confirmations_of_le_under {source : Source} {head last : Int}
    (hrun : source.Runnable) (hlast : 1 ≤ last)
    (h : last ≤ (Finality.of source.network source.confirmations).under head) :
    last ≤ head - source.confirmations := by
  have hconfirmations := hrun.confirmations_nonneg
  simp only [Finality.of, Finality.under] at h
  omega

/-- A window begins where the loop stands, is as large as the two steps of the source allow, and
ends no higher than the confirmations below the newest block, as exchanges told it last. -/
structure Confirmed (loop : Poller) (t : Tables) (exchanges : List (Exchange surroundings))
    (window : Window) : Prop where
  first_eq : window.first = loop.position (t.cursors.find? loop.source.key loop.source.network)
  minStep_le : loop.source.minStep ≤ window.last - window.first
  le_step : window.last - window.first ≤ loop.source.step
  last_le : ∃ head, lastHead? exchanges = some head ∧
    window.last ≤ head - loop.source.confirmations

/-- No premise on the stored cursor or on the told heights is needed: the cursor may have been
stored under other settings, and any height may be negative. -/
theorem confirmed_of_handsOver {source : Source} (hrun : source.Runnable) {router : Router}
    {t : Tables} (hpermits : t.Permits exchanges) {window : Window}
    (hhands : (Poller.of source router).HandsOver exchanges window) :
    (Poller.of source router).Confirmed t exchanges window := by
  obtain ⟨⟨q, hcycle⟩, survey, rest, c, safeHeight, rfl, hintent⟩ := hhands
  obtain ⟨stored, head, approach, rfl, happroach, hready, -, rfl⟩ :=
    approach_of_ends_intent hintent
  have hstart := startCursor_of_approach happroach
  have hstored : stored = t.cursors.find? source.key source.network :=
    stored_of_approach happroach (by simpa [List.append_assoc] using hpermits)
  have hheight : c.height = (Poller.of source router).position stored :=
    height_of_startCursor hstart
  have hsteps := step_of_startCursor hrun hstart
  dsimp only [Poller.of] at hsteps
  obtain ⟨hleast, hgreatest⟩ := hsteps
  have hhead : lastHead? ((approach ++ [looking (.of source router) (.ok head)]) ++ rest) =
      some head := by
    obtain ⟨more, result, hcarry⟩ := exists_ends_carryOut hintent hcycle
    have hsilent := request_ne_headHeight_of_ends_advance hcarry
    rw [lastHead?_append_of_forall fun e he => hsilent e (List.mem_append_left _ he)]
    exact lastHead?_append_looking approach head
  refine ⟨hheight.trans (congrArg _ hstored), ?_, ?_, head, hhead, ?_⟩
  · dsimp only [Poller.of]
    omega
  · dsimp only [Poller.of]
    omega
  · have hposition : source.startHeight ≤ c.height := hheight ▸ startHeight_le_position
    have hminStep := hrun.one_le_minStep
    have hstartHeight := hrun.startHeight_nonneg
    have hlast : 1 ≤ c.height + c.step := by omega
    exact le_sub_confirmations_of_le_under hrun hlast hready

section Asking

variable {outcome : CycleEnd}

theorem inquiry?_of_approach {stored : Option Cursor} {c : Cursor}
    (h : loop.Approach stored c exchanges) : ∀ e ∈ exchanges, e.1.inquiry? = none := by
  cases h with
  | atOnce => simp [loading, WorkRequest.inquiry?]
  | afterPause => simp [loading, looking, WorkRequest.inquiry?]

theorem inquiry?_of_givingUp {c : Cursor} {cause : Failure} (h : loop.GivingUp c cause exchanges) :
    ∀ e ∈ exchanges, e.1.inquiry? = none := by
  intro e he
  obtain hrequest | ⟨entry, hrequest⟩ := request_of_givingUp h e he
  · rw [hrequest]
    rfl
  · rw [hrequest]
    rfl

/-- A survey puts no inquiry to an adapter, whatever it comes to. -/
theorem inquiry?_of_ends_intent {intent : Fallible Intent}
    (h : loop.intent.run.Ends survey intent) : ∀ e ∈ survey, e.1.inquiry? = none := by
  cases ends_intent_iff.1 h with
  | unloaded | crossed | early => simp [loading, looking, WorkRequest.inquiry?]
  | unseen cause happroach hclosing =>
    exact List.forall_mem_append.2 ⟨inquiry?_of_approach happroach,
      List.forall_mem_cons.2 ⟨rfl, inquiry?_of_givingUp hclosing⟩⟩
  | ready head happroach =>
    exact List.forall_mem_append.2 ⟨inquiry?_of_approach happroach,
      List.forall_mem_singleton.2 rfl⟩

/-- A cycle that puts an inquiry to an adapter has an intent to deliver, and the inquiry is that of
the window. -/
theorem exists_intent_of_inquiry? (h : loop.cycle.Ends exchanges outcome)
    {e : Exchange surroundings} (he : e ∈ exchanges) {inquiry : Inquiry}
    (hinquiry : e.1.inquiry? = some inquiry) :
    ∃ survey rest c safeHeight window, exchanges = survey ++ rest ∧
      loop.intent.run.Ends survey (.ok (.deliver c safeHeight window)) ∧
      inquiry = loop.inquiryFor window := by
  have hsurvey {survey : List (Exchange surroundings)} {intent : Fallible Intent}
      (hintent : loop.intent.run.Ends survey intent) : e ∉ survey := by
    intro hmem
    cases (inquiry?_of_ends_intent hintent e hmem).symm.trans hinquiry
  cases ends_cycle_iff.1 h with
  | aimless hintent => exact absurd he (hsurvey hintent)
  | stopped hintent => exact absurd he (hsurvey hintent)
  | waited hintent saved =>
    obtain he | he := List.mem_append.1 he
    · exact absurd he (hsurvey hintent)
    · obtain rfl := List.mem_singleton.1 he
      cases hinquiry
  | undelivered hintent hdeliver hclosing =>
    refine ⟨_, _, _, _, _, rfl, hintent, ?_⟩
    obtain he | he := List.mem_append.1 he
    · exact absurd he (hsurvey hintent)
    obtain he | he := List.mem_append.1 he
    · exact Router.eq_of_inquiry? hdeliver he hinquiry
    · cases (inquiry?_of_givingUp hclosing e he).symm.trans hinquiry
  | delivered hintent hdeliver saved =>
    refine ⟨_, _, _, _, _, rfl, hintent, ?_⟩
    obtain he | he := List.mem_append.1 he
    · exact absurd he (hsurvey hintent)
    obtain he | he := List.mem_append.1 he
    · exact Router.eq_of_inquiry? hdeliver he hinquiry
    · obtain rfl := List.mem_singleton.1 he
      cases hinquiry

/-- Whatever a cycle puts to an adapter, be it under way or over, is the inquiry of a window that it
has handed over. -/
theorem handsOver_of_inquiry? {q : Work CycleEnd} (h : loop.cycle.Leads exchanges q)
    {e : Exchange surroundings} (he : e ∈ exchanges) {inquiry : Inquiry}
    (hinquiry : e.1.inquiry? = some inquiry) :
    ∃ window, inquiry = loop.inquiryFor window ∧ loop.HandsOver exchanges window := by
  obtain ⟨more, outcome, hends⟩ := h.exists_ends
  obtain ⟨survey, rest, c, safeHeight, window, heq, hintent, rfl⟩ :=
    exists_intent_of_inquiry? hends (List.mem_append_left _ he) hinquiry
  refine ⟨window, rfl, ⟨q, h⟩, survey, ?_⟩
  obtain ⟨beyond, rfl, -⟩ | ⟨after, rfl, -⟩ := List.append_eq_append_iff.1 heq
  · cases (inquiry?_of_ends_intent hintent e (List.mem_append_left _ he)).symm.trans hinquiry
  · exact ⟨after, c, safeHeight, rfl, hintent⟩

end Asking

end Poller

end ChainCrawl
