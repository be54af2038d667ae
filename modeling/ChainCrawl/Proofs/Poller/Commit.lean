import ChainCrawl.Proofs.Poller.Window

namespace ChainCrawl

/-- The window that a cycle has stored and moved the cursor after. -/
def CycleEnd.window? : CycleEnd → Option Window
  | .advanced window _ _ => some window
  | _ => none

namespace Poller

open Proc

variable (loop : Poller)

/-- What a cycle may save in place of the cursor that it goes out from, after its exchanges: that
cursor with the smallest step, or the one behind the window that it has just delivered. -/
inductive Successor (c : Cursor) :
    List (Exchange surroundings) → Cursor → Option Window → Prop where
  | shrunk (body : List (Exchange surroundings)) : Successor c body c.shrunk none
  | past {looks delivering : List (Exchange surroundings)} {d : Delivery}
      (hdeliver : (loop.router.deliver (loop.inquiryFor ⟨c.height, c.height + c.step⟩)).run.Ends
        delivering (.ok d)) :
      Successor c (looks ++ delivering) (loop.stride.past c ⟨c.height, c.height + c.step⟩)
        (some ⟨c.height, c.height + c.step⟩)

/-- What a cycle commits: nothing, or one cursor. -/
inductive Commit : List (Exchange surroundings) → CycleEnd → Prop where
  | nothing {exchanges : List (Exchange surroundings)} {outcome : CycleEnd}
      (hquiet : SavesNothing exchanges) (hend : outcome.window? = none) : Commit exchanges outcome
  | save {stored : Option Cursor} {c next : Cursor} {window : Option Window}
      {body rest : List (Exchange surroundings)} {saved : Except TableFailure Unit}
      {outcome : CycleEnd} (hstart : loop.startCursor stored = some c)
      (hnext : loop.Successor c body next window) (hbody : SavesNothing body)
      (hrest : SavesNothing rest) (hlast : saved = .ok () → rest = [])
      (hend : outcome.window? = saved.toOption.bind fun _ => window) :
      Commit (loop.loading (.ok stored) :: (body ++ saving next saved :: rest)) outcome

variable {loop} {stored : Option Cursor} {c next : Cursor} {window : Option Window}
  {exchanges body closing : List (Exchange surroundings)} {outcome : CycleEnd}

namespace Successor

theorem source (h : loop.Successor c body next window) :
    next.sourceKey = c.sourceKey ∧ next.network = c.network := by
  cases h with
  | shrunk => exact ⟨rfl, rfl⟩
  | past => exact ⟨rfl, rfl⟩

theorem le_height (h : loop.Successor c body next window) : c.height ≤ next.height := by
  cases h with
  | shrunk => exact Int.le_refl _
  | past => exact Int.le_max_left _ _

end Successor

theorem savesNothing_loading_cons (loop : Poller) (answer : Except TableFailure (Option Cursor))
    (h : SavesNothing exchanges) : SavesNothing (loop.loading answer :: exchanges) :=
  .cons (fun c heq => by cases heq) h

theorem savesNothing_looking_cons (loop : Poller) (answer : Fallible Int)
    (h : SavesNothing exchanges) : SavesNothing (loop.looking answer :: exchanges) :=
  .cons (fun c heq => by cases heq) h

theorem savesNothing_sleep_cons (millis : Nat) (h : SavesNothing exchanges) :
    SavesNothing (⟨.sleep millis, ()⟩ :: exchanges) :=
  .cons (fun c heq => by cases heq) h

/-- Before the look that counts, a cycle loads its cursor and saves nothing. -/
theorem eq_loading_cons_of_approach (h : loop.Approach stored c exchanges) :
    ∃ looks, exchanges = loop.loading (.ok stored) :: looks ∧ SavesNothing looks := by
  cases h with
  | atOnce => exact ⟨[], rfl, .nil⟩
  | afterPause head =>
    exact ⟨_, rfl, savesNothing_looking_cons loop _ (savesNothing_sleep_cons _ .nil)⟩

theorem commit_of_givingUp {cause : Failure} (hstart : loop.startCursor stored = some c)
    (hbody : SavesNothing body) (hclosing : loop.GivingUp c cause closing)
    (hend : outcome.window? = none) :
    loop.Commit (loop.loading (.ok stored) :: (body ++ closing)) outcome := by
  unfold GivingUp at hclosing
  split at hclosing
  · obtain rfl | ⟨e, rfl⟩ := hclosing
    · exact .save hstart (.shrunk body) hbody .nil (fun _ => rfl) hend
    · have hreport : SavesNothing [loop.shrinkReport e] :=
        .cons (fun c h => by cases h) .nil
      exact .save hstart (.shrunk body) hbody hreport (fun h => by cases h) hend
  · obtain rfl := hclosing
    rw [List.append_nil]
    exact .nothing (savesNothing_loading_cons loop _ hbody) hend

/-- Giving up stores no record. -/
theorem records_run_givingUp {cause : Failure} (h : loop.GivingUp c cause exchanges) (t : Tables) :
    (t.run exchanges).records = t.records := by
  unfold GivingUp at h
  split at h
  · obtain rfl | ⟨e, rfl⟩ := h
    · rfl
    · rfl
  · obtain rfl := h
    rfl

theorem records_run_approach (h : loop.Approach stored c exchanges) (t : Tables) :
    (t.run exchanges).records = t.records := by
  cases h <;> rfl

/-- A survey stores no record, whatever it comes to. -/
theorem records_run_survey {intent : Fallible Intent} (h : loop.intent.run.Ends exchanges intent)
    (t : Tables) : (t.run exchanges).records = t.records := by
  cases ends_intent_iff.1 h with
  | unloaded => rfl
  | crossed => rfl
  | unseen e happroach hclosing =>
    rw [Tables.run_append, Tables.run_cons, records_run_givingUp hclosing]
    exact records_run_approach happroach t
  | ready head happroach =>
    rw [Tables.run_append]
    exact records_run_approach happroach t
  | early => rfl

/-- A survey that ends with an intent saves no cursor. -/
theorem savesNothing_of_ends_intent {intent : Intent}
    (h : loop.intent.run.Ends exchanges (.ok intent)) : SavesNothing exchanges := by
  cases ends_intent_iff.1 h with
  | crossed => exact savesNothing_loading_cons loop _ .nil
  | ready head happroach =>
    obtain ⟨looks, rfl, hlooks⟩ := eq_loading_cons_of_approach happroach
    exact (savesNothing_loading_cons loop _ hlooks).append (savesNothing_looking_cons loop _ .nil)
  | early first second =>
    exact savesNothing_loading_cons loop _ (savesNothing_looking_cons loop _
      (savesNothing_sleep_cons _ (savesNothing_looking_cons loop _ .nil)))

/-- No premise on the loop is needed: this is how every cycle is built. -/
theorem commit_of_ends_cycle (h : loop.cycle.Ends exchanges outcome) :
    loop.Commit exchanges outcome := by
  cases ends_cycle_iff.1 h with
  | aimless hintent =>
    cases ends_intent_iff.1 hintent with
    | unloaded e => exact .nothing (savesNothing_loading_cons loop _ .nil) rfl
    | unseen e happroach hclosing =>
      obtain ⟨looks, rfl, hlooks⟩ := eq_loading_cons_of_approach happroach
      have hbody := hlooks.append (savesNothing_looking_cons loop (.error e) .nil)
      simpa using commit_of_givingUp (startCursor_of_approach happroach) hbody hclosing rfl
  | stopped hintent =>
    cases ends_intent_iff.1 hintent with
    | crossed => exact .nothing (savesNothing_loading_cons loop _ .nil) rfl
  | @waited survey c safeHeight needed hintent saved =>
    cases ends_intent_iff.1 hintent with
    | early first second hstart =>
      have hbody := savesNothing_looking_cons loop (.ok first)
        (savesNothing_sleep_cons c.sleepMillis (savesNothing_looking_cons loop (.ok second) .nil))
      refine .save hstart (.shrunk _) hbody .nil (fun _ => rfl) ?_
      cases saved <;> rfl
  | undelivered hintent hdeliver hclosing =>
    obtain ⟨stored, head, approach, rfl, happroach, -, -, rfl⟩ := approach_of_ends_intent hintent
    obtain ⟨looks, rfl, hlooks⟩ := eq_loading_cons_of_approach happroach
    have hbody := (hlooks.append (savesNothing_looking_cons loop (.ok head) .nil)).append
      (Router.savesNothing_of_ends_deliver hdeliver)
    simpa using commit_of_givingUp (startCursor_of_approach happroach) hbody hclosing rfl
  | @delivered survey delivering c safeHeight window d hintent hdeliver saved =>
    obtain ⟨stored, head, approach, rfl, happroach, -, -, rfl⟩ := approach_of_ends_intent hintent
    obtain ⟨looks, rfl, hlooks⟩ := eq_loading_cons_of_approach happroach
    have hbody := (hlooks.append (savesNothing_looking_cons loop (.ok head) .nil)).append
      (Router.savesNothing_of_ends_deliver hdeliver)
    have hstart := startCursor_of_approach happroach
    rw [List.append_assoc, List.cons_append, ← List.append_assoc, ← List.append_assoc]
    refine .save hstart (.past hdeliver) hbody .nil (fun _ => rfl) ?_
    cases saved <;> rfl

/-- A save that goes well ends its cycle. -/
theorem Commit.ne_save_of_mem_dropLast (h : loop.Commit exchanges outcome)
    {e : Exchange surroundings} (he : e ∈ exchanges.dropLast) (c : Cursor) (u : Unit) :
    e ≠ ⟨.saveCursor c, .ok u⟩ := by
  rintro rfl
  cases h with
  | nothing hquiet => exact hquiet _ (List.dropLast_subset _ he) c rfl
  | @save stored c' next window body rest saved _ hstart hnext hbody hrest hlast hend =>
    have hquiet := savesNothing_loading_cons loop (.ok stored) hbody
    rw [← List.cons_append] at he
    cases saved with
    | ok =>
      rw [hlast rfl, List.dropLast_concat] at he
      exact hquiet _ he c rfl
    | error f =>
      obtain he | he := List.mem_append.1 (List.dropLast_subset _ he)
      · exact hquiet _ he c rfl
      · obtain heq | he := List.mem_cons.1 he
        · cases heq
        · exact hrest _ he c rfl

/-- What a cycle that stands before a save has made of the cursor that it loaded. -/
theorem successor_of_leads_save {answer : Except TableFailure Unit → Work CycleEnd}
    (h : loop.cycle.Leads exchanges (.ask (.saveCursor next) answer)) :
    ∃ stored c body window, exchanges = loop.loading (.ok stored) :: body ∧
      loop.startCursor stored = some c ∧ loop.Successor c body next window := by
  obtain ⟨more, outcome, hmore⟩ := (answer (.ok ())).exists_ends
  have hcycle : loop.cycle.Ends (exchanges ++ saving next (.ok ()) :: more) outcome :=
    h.append (.ask hmore)
  generalize hall : exchanges ++ saving next (.ok ()) :: more = all at hcycle
  cases commit_of_ends_cycle hcycle with
  | nothing hquiet =>
    rw [← hall] at hquiet
    exact absurd rfl (hquiet _ (List.mem_append_right _ List.mem_cons_self) next)
  | @save stored c next' window body rest saved _ hstart hnext hbody hrest hlast hend =>
    have hquiet := savesNothing_loading_cons loop (.ok stored) hbody
    obtain ⟨rfl, heq⟩ := hquiet.eq_of_append hrest rfl hall
    cases heq
    exact ⟨stored, c, body, window, rfl, hstart, hnext⟩

end Poller

end ChainCrawl
