import ChainCrawl.Proofs.Poller.Coverage

namespace ChainCrawl

namespace Poller

open Proc

variable (loop : Poller)

/-- The stored cursor of the loop's source stands at a height and takes a step from there. -/
def Stands (t : Tables) (height step : Int) : Prop :=
  ∃ x, loop.storedIn t = some x ∧ x.height = height ∧ x.step = step

/-- What the outcome of a cycle that went out from a cursor tells of the cursors. -/
def Tells (t : Tables) (exchanges : List (Exchange surroundings)) (c : Cursor) : CycleEnd → Prop
  | .advanced window _ _ =>
    window = ⟨c.height, c.height + c.step⟩ ∧
      loop.Stands (t.run exchanges) (window.last + 1) loop.source.step
  | .waiting safeHeight needed =>
    loop.Stands (t.run exchanges) c.height loop.source.minStep ∧
      needed = c.height + c.step ∧ safeHeight < needed
  | .failed cause =>
    if cause.shrinksWindow then
      loop.Stands (t.run exchanges) c.height loop.source.minStep ∨
        ((∃ e, saving c.shrunk (.error e) ∈ exchanges) ∧ (t.run exchanges).cursors = t.cursors)
    else (t.run exchanges).cursors = t.cursors
  | .misconfigured => False

variable {loop} {t : Tables} {c : Cursor} {exchanges quiet closing : List (Exchange surroundings)}
  {outcome : CycleEnd}

theorem position_of_stands {height step : Int} (h : loop.Stands t height step)
    (hlow : loop.source.startHeight ≤ height) : loop.position (loop.storedIn t) = height := by
  obtain ⟨x, hx, rfl, -⟩ := h
  rw [hx]
  exact Int.max_eq_left hlow

/-- A stored step that the source allows is the step of the next cycle. -/
theorem step_of_stands {height step : Int} (h : loop.Stands t height step)
    (hstart : loop.startCursor (loop.storedIn t) = some c)
    (hleast : loop.source.minStep ≤ step) (hgreatest : step ≤ loop.source.step) :
    c.step = step := by
  obtain ⟨x, hx, -, rfl⟩ := h
  rw [hx] at hstart
  obtain ⟨-, rfl⟩ := startCursor_some hstart
  dsimp only
  omega

/-- A save that goes well at the end of quiet exchanges leaves its cursor stored. -/
theorem storedIn_of_save {next : Cursor} (hstart : loop.startCursor (loop.storedIn t) = some c)
    (hquiet : SavesNothing quiet)
    (hsource : next.sourceKey = c.sourceKey ∧ next.network = c.network)
    (hheight : c.height ≤ next.height) :
    loop.storedIn (t.run (quiet ++ [saving next (.ok ())])) = some next := by
  have hbefore := hquiet.cursors_run t
  have hput := find?_put_of_startCursor hstart hsource hheight
  rw [storedIn, Tables.run_append]
  change (CursorTable.put (t.run quiet).cursors next).find? _ _ = _
  rw [hbefore, hput]

theorem stands_of_save_shrunk (hstart : loop.startCursor (loop.storedIn t) = some c)
    (hquiet : SavesNothing quiet) :
    loop.Stands (t.run (quiet ++ [saving c.shrunk (.ok ())])) c.height loop.source.minStep :=
  ⟨c.shrunk, storedIn_of_save hstart hquiet ⟨rfl, rfl⟩ (Int.le_refl _), rfl,
    minStep_of_startCursor hstart⟩

/-- A save that fails at the end of quiet exchanges leaves all cursors as they were. -/
theorem cursors_of_failed_save {next : Cursor} {e : TableFailure} (hquiet : SavesNothing quiet)
    (t : Tables) :
    (t.run (quiet ++ [saving next (.error e)])).cursors = t.cursors := by
  rw [Tables.run_append]
  exact hquiet.cursors_run t

/-- However a cycle gives up, its cause tells what has become of the cursor. -/
theorem tells_of_givingUp {cause : Failure} (hstart : loop.startCursor (loop.storedIn t) = some c)
    (hquiet : SavesNothing quiet) (hclosing : loop.GivingUp c cause closing) :
    loop.Tells t (quiet ++ closing) c (.failed cause) := by
  unfold GivingUp at hclosing
  dsimp only [Tells]
  by_cases hshrinks : cause.shrinksWindow = true
  · rw [if_pos hshrinks] at hclosing ⊢
    obtain rfl | ⟨e, rfl⟩ := hclosing
    · exact .inl (stands_of_save_shrunk hstart hquiet)
    · refine .inr ⟨⟨e, List.mem_append_right _ List.mem_cons_self⟩, ?_⟩
      rw [Tables.run_append]
      exact hquiet.cursors_run t
  · rw [if_neg hshrinks] at hclosing ⊢
    obtain rfl := hclosing
    rw [List.append_nil]
    exact hquiet.cursors_run t

/-- A cycle that comes to no intent has given up, or could not load its cursor. -/
theorem tells_of_aimless {cause : Failure} (hstart : loop.startCursor (loop.storedIn t) = some c)
    (hpermits : t.Permits exchanges) (h : loop.intent.run.Ends exchanges (.error cause)) :
    loop.Tells t exchanges c (.failed cause) := by
  cases ends_intent_iff.1 h with
  | unloaded e => exact (savesNothing_loading_cons loop _ .nil).cursors_run t
  | @unseen stored c' approach closing e happroach hclosing =>
    have hstored : stored = loop.storedIn t := stored_of_approach happroach hpermits
    obtain rfl : c' = c :=
      Option.some.inj ((startCursor_of_approach happroach).symm.trans (hstored ▸ hstart))
    obtain ⟨looks, rfl, hlooks⟩ := eq_loading_cons_of_approach happroach
    have hquiet := (savesNothing_loading_cons loop (.ok stored) hlooks).append
      (savesNothing_looking_cons loop (.error e) .nil)
    have htells := tells_of_givingUp hstart hquiet hclosing
    rwa [List.append_assoc] at htells

/-- The cursor of an intent is the one that the cycle went out from. -/
theorem eq_of_ends_intent_deliver {survey rest : List (Exchange surroundings)} {c' : Cursor}
    {safeHeight : Int} {window : Window}
    (hstart : loop.startCursor (loop.storedIn t) = some c)
    (h : loop.intent.run.Ends survey (.ok (.deliver c' safeHeight window)))
    (hpermits : t.Permits (survey ++ rest)) :
    c' = c ∧ window = ⟨c.height, c.height + c.step⟩ := by
  obtain ⟨stored, head, approach, rfl, happroach, -, -, rfl⟩ := approach_of_ends_intent h
  have hstored : stored = loop.storedIn t :=
    stored_of_approach happroach (by simpa [List.append_assoc] using hpermits)
  obtain rfl : c' = c :=
    Option.some.inj ((startCursor_of_approach happroach).symm.trans (hstored ▸ hstart))
  exact ⟨rfl, rfl⟩

theorem eq_of_ends_intent_wait {survey rest : List (Exchange surroundings)} {c' : Cursor}
    {safeHeight needed : Int} (hstart : loop.startCursor (loop.storedIn t) = some c)
    (h : loop.intent.run.Ends survey (.ok (.wait c' safeHeight needed)))
    (hpermits : t.Permits (survey ++ rest)) :
    c' = c ∧ needed = c.height + c.step ∧ safeHeight < needed := by
  cases ends_intent_iff.1 h with
  | @early stored _ first second hstart' _ hsecond =>
    have hstored : stored = loop.storedIn t := hpermits.1
    obtain rfl : c' = c := Option.some.inj (hstart'.symm.trans (hstored ▸ hstart))
    exact ⟨rfl, rfl, hsecond⟩

/-- The cursor behind a delivered window takes the full step of its source. -/
theorem stands_of_save_past (hrun : loop.source.Runnable)
    (hstart : loop.startCursor (loop.storedIn t) = some c) (hquiet : SavesNothing quiet) :
    loop.Stands (t.run (quiet ++
      [saving (loop.stride.past c ⟨c.height, c.height + c.step⟩) (.ok ())]))
      (c.height + c.step + 1) loop.source.step := by
  have hstep := (step_of_startCursor hrun hstart).1
  have hleast := hrun.one_le_minStep
  refine ⟨_, storedIn_of_save hstart hquiet ⟨rfl, rfl⟩ (Int.le_max_left _ _), ?_, ?_⟩
  · apply height_past
    dsimp only
    omega
  · apply step_past hrun
    rw [minStep_of_startCursor hstart]
    exact hrun.minStep_le_step

/-- In each of the ways that a cycle can go, its outcome tells what has become of the cursor. -/
theorem tells_of_ends_cycle (hrun : loop.source.Runnable)
    (hstart : loop.startCursor (loop.storedIn t) = some c)
    (h : loop.cycle.Ends exchanges outcome) (hpermits : t.Permits exchanges) :
    loop.Tells t exchanges c outcome := by
  cases ends_cycle_iff.1 h with
  | aimless hintent => exact tells_of_aimless hstart hpermits hintent
  | stopped hintent =>
    cases ends_intent_iff.1 hintent with
    | crossed hcrossed =>
      rw [hpermits.1] at hcrossed
      cases hstart.symm.trans hcrossed
  | waited hintent saved =>
    obtain ⟨rfl, hneeded, hearly⟩ := eq_of_ends_intent_wait hstart hintent hpermits
    have hquiet := savesNothing_of_ends_intent hintent
    cases saved with
    | ok => exact ⟨stands_of_save_shrunk hstart hquiet, hneeded, hearly⟩
    | error e =>
      exact cursors_of_failed_save hquiet t
  | undelivered hintent hdeliver hclosing =>
    obtain ⟨rfl, -⟩ := eq_of_ends_intent_deliver hstart hintent hpermits
    have hquiet := (savesNothing_of_ends_intent hintent).append
      (Router.savesNothing_of_ends_deliver hdeliver)
    rw [← List.append_assoc]
    exact tells_of_givingUp hstart hquiet hclosing
  | delivered hintent hdeliver saved =>
    obtain ⟨rfl, rfl⟩ := eq_of_ends_intent_deliver hstart hintent hpermits
    have hquiet := (savesNothing_of_ends_intent hintent).append
      (Router.savesNothing_of_ends_deliver hdeliver)
    rw [← List.append_assoc]
    cases saved with
    | ok => exact ⟨rfl, stands_of_save_past hrun hstart hquiet⟩
    | error e => exact cursors_of_failed_save hquiet t

/-- A cycle touches the cursor of its own source only. -/
theorem find?_of_ends_cycle (h : loop.cycle.Ends exchanges outcome) (hpermits : t.Permits exchanges)
    {key : String} {network : Network}
    (hother : ¬ (key = loop.source.key ∧ network = loop.source.network)) :
    (t.run exchanges).cursors.find? key network = t.cursors.find? key network := by
  obtain ⟨hcursors, -⟩ | ⟨c, next, body, window, hstart, hnext, hcursors, -⟩ :=
    (commit_of_ends_cycle h).cursors_run hpermits
  · rw [hcursors]
  · have hname : c.sourceKey = loop.source.key ∧ c.network = loop.source.network :=
      source_of_startCursor hstart fun s hs => CursorTable.source_of_find? hs
    have hsource := hnext.source
    rw [hcursors, CursorTable.find?_put, if_neg]
    rintro ⟨rfl, rfl⟩
    exact hother ⟨hsource.1.trans hname.1, hsource.2.trans hname.2⟩

/-- A cycle stores nothing, or the one batch of its delivery. -/
theorem records_of_ends_cycle (h : loop.cycle.Ends exchanges outcome) (t : Tables) :
    (t.run exchanges).records = t.records ∨
      ∃ batch, ⟨.addRecords batch, .ok ()⟩ ∈ exchanges ∧
        (t.run exchanges).records = t.records.addBatch batch := by
  cases ends_cycle_iff.1 h with
  | aimless hintent => exact .inl (records_run_survey hintent t)
  | stopped hintent => exact .inl (records_run_survey hintent t)
  | waited hintent saved =>
    refine .inl ?_
    rw [Tables.run_append]
    cases saved <;> exact records_run_survey hintent t
  | undelivered hintent hdeliver hclosing =>
    refine .inl ?_
    rw [Tables.run_append, Tables.run_append, records_run_givingUp hclosing,
      Router.records_of_ends_deliver_error hdeliver, records_run_survey hintent]
  | @delivered survey delivering c safeHeight window d hintent hdeliver saved =>
    have hrecords : (t.run (survey ++ (delivering ++
        [saving (loop.stride.past c window) saved]))).records = t.records.addBatch d.records := by
      rw [← records_run_survey hintent t, ← Router.records_of_ends_deliver_ok hdeliver,
        Tables.run_append, Tables.run_append]
      cases saved <;> rfl
    cases hd : d.records with
    | nil =>
      refine .inl (hrecords.trans ?_)
      rw [hd]
      rfl
    | cons r rest =>
      refine .inr ⟨d.records, ?_, hrecords⟩
      obtain ⟨adapter, events, sifting, -, -, rfl⟩ := Router.ends_deliver_ok_iff.1 hdeliver
      simp [Router.storing, hd]

/-- What a cycle that has ended has changed: the cursor of its source as the outcome tells, no other
cursor, and the records by one batch at most. -/
theorem changes_of_ends_cycle (hrun : loop.source.Runnable)
    (h : loop.cycle.Ends exchanges outcome) (hpermits : t.Permits exchanges) :
    ∃ c, loop.startCursor (loop.storedIn t) = some c ∧ loop.Tells t exchanges c outcome ∧
      (∀ key network, ¬ (key = loop.source.key ∧ network = loop.source.network) →
        (t.run exchanges).cursors.find? key network = t.cursors.find? key network) ∧
      ((t.run exchanges).records = t.records ∨
        ∃ batch, ⟨.addRecords batch, .ok ()⟩ ∈ exchanges ∧
          (t.run exchanges).records = t.records.addBatch batch) := by
  obtain ⟨c, hstart⟩ := exists_startCursor hrun (loop.storedIn t)
  exact ⟨c, hstart, tells_of_ends_cycle hrun hstart h hpermits,
    fun key network hother => find?_of_ends_cycle h hpermits hother, records_of_ends_cycle h t⟩

/-- From the outcome of a cycle it can be read what the cycle has made of its source's cursor; no
other cursor is touched, and records are stored by one batch at most. No premise on the tables or on
how any request is answered is needed, nor that the stored cursor was saved under the same settings.
-/
theorem outcome_tells_changes {config : Config} (hvalid : config.Valid)
    (hsource : loop.source ∈ config.sources) (h : loop.cycle.Ends exchanges outcome)
    (hpermits : t.Permits exchanges) :
    ∃ c, loop.startCursor (loop.storedIn t) = some c ∧ loop.Tells t exchanges c outcome ∧
      (∀ key network, ¬ (key = loop.source.key ∧ network = loop.source.network) →
        (t.run exchanges).cursors.find? key network = t.cursors.find? key network) ∧
      ((t.run exchanges).records = t.records ∨
        ∃ batch, ⟨.addRecords batch, .ok ()⟩ ∈ exchanges ∧
          (t.run exchanges).records = t.records.addBatch batch) :=
  changes_of_ends_cycle (hvalid.runnable hsource) h hpermits

/-- A window that turns out too large, with the cursor of another source beside the loop's own. -/
theorem outcome_tells_changes_sample :
    Config.sample.Valid ∧ Source.sample ∈ Config.sample.sources ∧
      ∃ (t : Tables) (exchanges : List (Exchange surroundings)),
        (Poller.of .sample .sample).cycle.Ends exchanges (.failed (.overfull "10000 items")) ∧
        t.Permits exchanges ∧ t.cursors.find? "other" .polygon ≠ none ∧
        ∃ c, (Poller.of .sample .sample).startCursor ((Poller.of .sample .sample).storedIn t) =
            some c ∧ c = cursorAt 103 9 ∧
          (Poller.of .sample .sample).Tells t exchanges c (.failed (.overfull "10000 items")) ∧
          (Poller.of .sample .sample).Stands (t.run exchanges) 103 2 ∧
          (t.run exchanges).cursors.find? "other" .polygon =
            t.cursors.find? "other" .polygon ∧
          ((t.run exchanges).records = t.records ∨
            ∃ batch, ⟨.addRecords batch, .ok ()⟩ ∈ exchanges ∧
              (t.run exchanges).records = t.records.addBatch batch) := by
  let other : Cursor := { Cursor.ofSource .sample with sourceKey := "other", network := .polygon }
  let t : Tables := { cursors := (CursorTable.empty.put other).put (cursorAt 103 1000) }
  let exchanges : List (Exchange surroundings) :=
    [loading (.of .sample .sample) (.ok (some (cursorAt 103 1000))),
      looking (.of .sample .sample) (.ok 124),
      ⟨.fetch ⟨0, "sample"⟩ (inquiryFor (.of .sample .sample) ⟨103, 112⟩),
        .error (.overfull "10000 items")⟩,
      saving (cursorAt 103 2) (.ok ())]
  have hvalid : Config.sample.Valid := by decide
  have hsource : Source.sample ∈ Config.sample.sources := List.mem_singleton.2 rfl
  have hcycle : (Poller.of .sample .sample).cycle.Ends exchanges
      (.failed (.overfull "10000 items")) := .ask (.ask (.ask (.ask (.nil _))))
  have hpermits : t.Permits exchanges := ⟨rfl, trivial, trivial, trivial, trivial⟩
  obtain ⟨c, hstart, htells, hothers, hrecords⟩ :=
    outcome_tells_changes hvalid hsource hcycle hpermits
  refine ⟨hvalid, hsource, t, exchanges, hcycle, hpermits, by decide, c, hstart, ?_, htells,
    ⟨_, rfl, rfl, rfl⟩, hothers _ _ (by decide), hrecords⟩
  exact (Option.some.inj hstart).symm

end Poller

end ChainCrawl
