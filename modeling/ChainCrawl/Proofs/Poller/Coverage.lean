import ChainCrawl.Proofs.Poller.Commit
import ChainCrawl.Proofs.Table.Cursor

namespace ChainCrawl

/-- Windows lie end to end from one height up to the height before another. -/
def Window.Tile (first : Int) : List Window → (next : Int) → Prop
  | [], next => first = next
  | w :: rest, next => w.first = first ∧ w.first ≤ w.last ∧ Tile (w.last + 1) rest next

theorem Window.Tile.append {first middle next : Int} {windows more : List Window}
    (hwindows : Tile first windows middle) (hmore : Tile middle more next) :
    Tile first (windows ++ more) next := by
  induction windows generalizing first with
  | nil =>
    obtain rfl : first = middle := hwindows
    exact hmore
  | cons w rest ih =>
    obtain ⟨hfirst, hle, hrest⟩ := hwindows
    exact ⟨hfirst, hle, ih hrest⟩

namespace Poller

open Proc

variable (loop : Poller)

/-- The cursor that is stored for the loop's source. -/
def storedIn (t : Tables) : Option Cursor :=
  t.cursors.find? loop.source.key loop.source.network

/-- Cycles of a loop one after the other, from given tables, and the cycle under way. -/
structure History (start : Tables) where
  /-- The exchanges of each cycle that has ended, with what it came to. -/
  cycles : List (List (Exchange surroundings) × CycleEnd)
  /-- The exchanges of the cycle under way. -/
  current : List (Exchange surroundings)
  ended : ∀ x ∈ cycles, loop.cycle.Ends x.1 x.2
  underWay : ∃ r next, loop.cycle.Leads current (.ask r next)
  permitted : start.Permits (cycles.flatMap (·.1) ++ current)

/-- The windows that ended cycles have advanced over, in their order. -/
def History.windows {loop : Poller} {start : Tables} (history : loop.History start) :
    List Window :=
  history.cycles.filterMap (·.2.window?)

def History.tables {loop : Poller} {start : Tables} (history : loop.History start) : Tables :=
  start.run (history.cycles.flatMap (·.1) ++ history.current)

variable {loop} {t : Tables} {exchanges : List (Exchange surroundings)} {outcome : CycleEnd}

/-- The cursors after a cycle: those before it, or with the one that it has committed. -/
theorem Commit.cursors_run (h : loop.Commit exchanges outcome) (hpermits : t.Permits exchanges) :
    ((t.run exchanges).cursors = t.cursors ∧ outcome.window? = none) ∨
      ∃ c next body window, loop.startCursor (loop.storedIn t) = some c ∧
        loop.Successor c body next window ∧ (t.run exchanges).cursors = t.cursors.put next ∧
        outcome.window? = window := by
  cases h with
  | nothing hquiet hend => exact .inl ⟨hquiet.cursors_run t, hend⟩
  | @save stored c next window body rest saved _ hstart hnext hbody hrest hlast hend =>
    have hstored : stored = loop.storedIn t := hpermits.1
    have hquiet := savesNothing_loading_cons loop (.ok stored) hbody
    have hbefore := hquiet.cursors_run t
    rw [← List.cons_append, Tables.run_append, Tables.run_cons, hrest.cursors_run]
    cases saved with
    | error f => exact .inl ⟨hbefore, hend⟩
    | ok =>
      refine .inr ⟨c, next, body, window, hstored ▸ hstart, hnext, ?_, hend⟩
      exact congrArg (·.put next) hbefore

/-- A cursor that replaces the loaded one is stored as it is. -/
theorem find?_put_of_startCursor {c next : Cursor}
    (hstart : loop.startCursor (loop.storedIn t) = some c)
    (hsource : next.sourceKey = c.sourceKey ∧ next.network = c.network)
    (hheight : c.height ≤ next.height) :
    (t.cursors.put next).find? loop.source.key loop.source.network = some next := by
  have hname : c.sourceKey = loop.source.key ∧ c.network = loop.source.network :=
    source_of_startCursor hstart fun s hs => CursorTable.source_of_find? hs
  have hnext : next.sourceKey = loop.source.key ∧ next.network = loop.source.network :=
    ⟨hsource.1.trans hname.1, hsource.2.trans hname.2⟩
  rw [CursorTable.find?_put, if_pos hnext, CursorTable.advanced_of_le fun old hold => ?_]
  have hposition := height_of_startCursor hstart
  rw [storedIn, hold] at hposition
  have hle : old.height ≤ c.height := hposition ▸ Int.le_max_left _ _
  exact Int.le_trans hle hheight

/-- A cycle that moves over no window leaves the stored cursor alone, or stores one at the position
that it went out from. -/
theorem storedIn_of_window?_eq_none (h : loop.cycle.Ends exchanges outcome)
    (hpermits : t.Permits exchanges) (hwindow : outcome.window? = none) :
    loop.storedIn (t.run exchanges) = loop.storedIn t ∨
      ∃ x, loop.storedIn (t.run exchanges) = some x ∧
        x.height = loop.position (loop.storedIn t) := by
  obtain ⟨hcursors, -⟩ | ⟨c, next, body, window, hstart, hnext, hcursors, hmoved⟩ :=
    (commit_of_ends_cycle h).cursors_run hpermits
  · refine .inl ?_
    rw [storedIn, hcursors, storedIn]
  · refine .inr ⟨next, ?_, ?_⟩
    · rw [storedIn, hcursors, find?_put_of_startCursor hstart hnext.source hnext.le_height]
    · rw [hwindow] at hmoved
      subst hmoved
      cases hnext
      rw [← height_of_startCursor hstart]
      rfl

/-- One cycle either leaves the position where it was or moves it over one window. -/
theorem tile_of_ends_cycle (hrun : loop.source.Runnable) (h : loop.cycle.Ends exchanges outcome)
    (hpermits : t.Permits exchanges) :
    Window.Tile (loop.position (loop.storedIn t)) outcome.window?.toList
      (loop.position (loop.storedIn (t.run exchanges))) := by
  obtain ⟨hcursors, hwindow⟩ | ⟨c, next, body, window, hstart, hnext, hcursors, hwindow⟩ :=
    (commit_of_ends_cycle h).cursors_run hpermits
  · rw [hwindow, storedIn, storedIn, hcursors]
    rfl
  · have hput := find?_put_of_startCursor hstart hnext.source hnext.le_height
    have hheight : c.height = loop.position (loop.storedIn t) := height_of_startCursor hstart
    have hlow : loop.source.startHeight ≤ c.height := hheight ▸ startHeight_le_position
    have hafter : loop.position (loop.storedIn (t.run exchanges)) = next.height := by
      have hle := hnext.le_height
      rw [storedIn, hcursors, hput, position]
      omega
    rw [hwindow, hafter, ← hheight]
    cases hnext with
    | shrunk => rfl
    | past hdeliver =>
      have hstep := step_of_startCursor hrun hstart
      have hminStep := hrun.one_le_minStep
      have hmoved : (loop.stride.past c ⟨c.height, c.height + c.step⟩).height =
          c.height + c.step + 1 := by
        apply height_past
        dsimp only
        omega
      refine ⟨rfl, ?_, hmoved.symm⟩
      dsimp only
      omega

/-- No premise on the tables at the start is needed: the scan goes on where it stood. -/
theorem tile_of_ended {cycles : List (List (Exchange surroundings) × CycleEnd)}
    (hrun : loop.source.Runnable) (hended : ∀ x ∈ cycles, loop.cycle.Ends x.1 x.2)
    (hpermits : t.Permits (cycles.flatMap (·.1))) :
    Window.Tile (loop.position (loop.storedIn t)) (cycles.filterMap (·.2.window?))
      (loop.position (loop.storedIn (t.run (cycles.flatMap (·.1))))) := by
  induction cycles generalizing t with
  | nil => rfl
  | cons x rest ih =>
    rw [List.flatMap_cons, Tables.permits_append_iff] at hpermits
    have hfirst := tile_of_ends_cycle hrun (hended x List.mem_cons_self) hpermits.1
    have hrest := ih (fun y hy => hended y (List.mem_cons_of_mem _ hy)) hpermits.2
    rw [List.flatMap_cons, Tables.run_append]
    have hcons : (x :: rest).filterMap (·.2.window?) =
        x.2.window?.toList ++ rest.filterMap (·.2.window?) := by
      cases hx : x.2.window? <;> simp [hx]
    rw [hcons]
    exact hfirst.append hrest

/-- What is stored for a source is never below its start, once the loop has stored it. -/
theorem startHeight_le_of_ends_cycle (h : loop.cycle.Ends exchanges outcome)
    (hpermits : t.Permits exchanges)
    (hstored : ∀ c, loop.storedIn t = some c → loop.source.startHeight ≤ c.height) :
    ∀ c, loop.storedIn (t.run exchanges) = some c → loop.source.startHeight ≤ c.height := by
  obtain ⟨hcursors, -⟩ | ⟨c, next, body, window, hstart, hnext, hcursors, -⟩ :=
    (commit_of_ends_cycle h).cursors_run hpermits
  · rw [storedIn, hcursors]
    exact hstored
  · intro x hx
    rw [storedIn, hcursors, find?_put_of_startCursor hstart hnext.source hnext.le_height] at hx
    obtain rfl := Option.some.inj hx
    have hlow : loop.source.startHeight ≤ c.height :=
      height_of_startCursor hstart ▸ startHeight_le_position
    exact Int.le_trans hlow hnext.le_height

theorem startHeight_le_of_ended {cycles : List (List (Exchange surroundings) × CycleEnd)}
    (hended : ∀ x ∈ cycles, loop.cycle.Ends x.1 x.2)
    (hpermits : t.Permits (cycles.flatMap (·.1)))
    (hstored : ∀ c, loop.storedIn t = some c → loop.source.startHeight ≤ c.height) :
    ∀ c, loop.storedIn (t.run (cycles.flatMap (·.1))) = some c →
      loop.source.startHeight ≤ c.height := by
  induction cycles generalizing t with
  | nil => exact hstored
  | cons x rest ih =>
    rw [List.flatMap_cons, Tables.permits_append_iff] at hpermits
    rw [List.flatMap_cons, Tables.run_append]
    exact ih (fun y hy => hended y (List.mem_cons_of_mem _ hy)) hpermits.2
      (startHeight_le_of_ends_cycle (hended x List.mem_cons_self) hpermits.1 hstored)

/-- A cycle that is still under way has moved no cursor. -/
theorem cursors_run_of_leads {r : WorkRequest} {next : r.Answer → Work CycleEnd}
    (h : loop.cycle.Leads exchanges (.ask r next)) : (t.run exchanges).cursors = t.cursors := by
  obtain ⟨answer⟩ := (inferInstance : Nonempty (surroundings.Answer r))
  obtain ⟨more, outcome, hmore⟩ := (next answer).exists_ends
  have hcommit := commit_of_ends_cycle (h.append (.ask hmore))
  refine Tables.cursors_run fun e he c u => hcommit.ne_save_of_mem_dropLast ?_ c u
  rw [List.dropLast_append_of_ne_nil (List.cons_ne_nil _ _)]
  exact List.mem_append_left _ he

/-- A cycle that advances ends with saving the cursor behind its delivered window. -/
theorem delivery_of_advanced {window : Window} {records : Nat} {caughtUp : Bool}
    (h : loop.cycle.Ends exchanges (.advanced window records caughtUp)) :
    ∃ survey delivering c safeHeight d,
      exchanges = survey ++ (delivering ++ [saving (loop.stride.past c window) (.ok ())]) ∧
        loop.intent.run.Ends survey (.ok (.deliver c safeHeight window)) ∧
        (loop.router.deliver (loop.inquiryFor window)).run.Ends delivering (.ok d) := by
  generalize hout : CycleEnd.advanced window records caughtUp = out at h
  cases ends_cycle_iff.1 h with
  | aimless | stopped | undelivered => cases hout
  | waited _ saved => cases saved <;> cases hout
  | delivered hintent hdeliver saved =>
    cases saved with
    | error => cases hout
    | ok =>
      cases hout
      exact ⟨_, _, _, _, _, rfl, hintent, hdeliver⟩

/-- Before and after its delivery an advancing cycle puts no inquiry to an adapter. -/
theorem mem_of_inquiry? {survey delivering : List (Exchange surroundings)}
    {intent : Fallible Intent} {next : Cursor} {saved : Except TableFailure Unit}
    (hintent : loop.intent.run.Ends survey intent) {e : Exchange surroundings}
    (he : e ∈ survey ++ (delivering ++ [saving next saved])) {inquiry : Inquiry}
    (hinquiry : e.1.inquiry? = some inquiry) : e ∈ delivering := by
  obtain he | he := List.mem_append.1 he
  · cases (inquiry?_of_ends_intent hintent e he).symm.trans hinquiry
  obtain he | he := List.mem_append.1 he
  · exact he
  · obtain rfl := List.mem_singleton.1 he
    cases hinquiry

theorem window_of_inquiry?_of_advanced {window : Window} {records : Nat} {caughtUp : Bool}
    (h : loop.cycle.Ends exchanges (.advanced window records caughtUp))
    {e : Exchange surroundings} (he : e ∈ exchanges) {inquiry : Inquiry}
    (hinquiry : e.1.inquiry? = some inquiry) : inquiry.window = some window := by
  obtain ⟨survey, delivering, c, safeHeight, d, rfl, hintent, hdeliver⟩ := delivery_of_advanced h
  rw [Router.eq_of_inquiry? hdeliver (mem_of_inquiry? hintent he hinquiry) hinquiry]
  rfl

/-- A cycle that advances has fetched the window that it has moved over, and no other. -/
theorem fetchedWindows_of_advanced {window : Window} {records : Nat} {caughtUp : Bool}
    (h : loop.cycle.Ends exchanges (.advanced window records caughtUp)) :
    exchanges.filterMap fetchedWindow? = [window] := by
  obtain ⟨survey, delivering, c, safeHeight, d, rfl, hintent, hdeliver⟩ := delivery_of_advanced h
  have hsurvey : survey.filterMap fetchedWindow? = [] :=
    List.filterMap_eq_nil_iff.2 fun e he =>
      fetchedWindow?_eq_none (inquiry?_of_ends_intent hintent e he)
  have hsaving : [saving (loop.stride.past c window) (.ok ())].filterMap fetchedWindow? = [] := rfl
  rw [List.filterMap_append, List.filterMap_append, hsurvey, hsaving,
    Router.fetchedWindows_of_ends_deliver_ok hdeliver]
  rfl

/-- The records that an advancing cycle was given are held from its end on. -/
theorem isSome_get?_of_advanced {window : Window} {records : Nat} {caughtUp : Bool}
    (h : loop.cycle.Ends exchanges (.advanced window records caughtUp)) {adapter : AdapterRef}
    {inquiry : Inquiry} {event : Event} {r : ActivityRecord}
    (hr : ⟨.recordOf adapter inquiry event, .ok r⟩ ∈ exchanges) :
    ((t.run exchanges).records.get? r.identifier).isSome := by
  obtain ⟨survey, delivering, c, safeHeight, d, rfl, hintent, hdeliver⟩ := delivery_of_advanced h
  have hbatch : r ∈ d.records :=
    Router.mem_records_of_ends_deliver hdeliver (mem_of_inquiry? hintent hr rfl)
  rw [← List.append_assoc, Tables.run_append, Tables.run_append]
  apply Tables.isSome_get?_run
  rw [Router.records_of_ends_deliver_ok hdeliver, RecordTable.isSome_get?_addBatch_iff]
  exact .inr ⟨r, hbatch, rfl⟩

/-- Of each cycle that has advanced, the fetch and the records in the answers belong to its window,
and the records are held at the end of all cycles. -/
theorem fetched_and_held_of_ended {cycles : List (List (Exchange surroundings) × CycleEnd)}
    (hended : ∀ x ∈ cycles, loop.cycle.Ends x.1 x.2)
    {x : List (Exchange surroundings) × CycleEnd} (hx : x ∈ cycles) {window : Window}
    (hwindow : x.2.window? = some window) :
    x.1.filterMap fetchedWindow? = [window] ∧
      ∀ adapter inquiry event r, ⟨.recordOf adapter inquiry event, .ok r⟩ ∈ x.1 →
        inquiry.window = some window ∧
          ((t.run (cycles.flatMap (·.1))).records.get? r.identifier).isSome := by
  obtain ⟨before, after, rfl⟩ := List.append_of_mem hx
  obtain ⟨exchanges, outcome⟩ := x
  have hcycle : loop.cycle.Ends exchanges outcome := hended _ hx
  cases outcome with
  | advanced moved records caughtUp =>
    obtain rfl : moved = window := Option.some.inj hwindow
    refine ⟨fetchedWindows_of_advanced hcycle, fun adapter inquiry event r hr => ⟨?_, ?_⟩⟩
    · exact window_of_inquiry?_of_advanced hcycle hr rfl
    · rw [List.flatMap_append, List.flatMap_cons, Tables.run_append, Tables.run_append]
      exact Tables.isSome_get?_run (isSome_get?_of_advanced hcycle hr) _
  | waiting | failed | misconfigured => cases hwindow

/-- The windows that the cycles of a loop have advanced over lie end to end from the source's start
to the stored position. Each is the one window that its cycle has fetched, and the records that were
given for it are held. No premise on the records at the start, or on how any request is answered, is
needed. -/
theorem windows_tile_and_records_held {config : Config} (hvalid : config.Valid)
    (hsource : loop.source ∈ config.sources) {start : Tables} (hempty : start.cursors = .empty)
    (history : loop.History start) {stored : Cursor}
    (hstored : history.tables.cursors.find? loop.source.key loop.source.network = some stored) :
    Window.Tile loop.source.startHeight history.windows stored.height ∧
      ∀ x ∈ history.cycles, ∀ window, x.2.window? = some window →
        x.1.filterMap fetchedWindow? = [window] ∧
          ∀ adapter inquiry event r, ⟨.recordOf adapter inquiry event, .ok r⟩ ∈ x.1 →
            inquiry.window = some window ∧
              (history.tables.records.get? r.identifier).isSome := by
  have hrun := hvalid.runnable hsource
  obtain ⟨cycles, current, hended, ⟨r, next, hcurrent⟩, hpermitted⟩ := history
  have hpermits : start.Permits (cycles.flatMap (·.1)) :=
    (Tables.permits_append_iff.1 hpermitted).1
  have hnone : loop.storedIn start = none := by
    rw [storedIn, hempty]
    exact CursorTable.find?_empty _ _
  have hnow : loop.storedIn (start.run (cycles.flatMap (·.1))) = some stored := by
    rw [← hstored]
    simp only [History.tables, Tables.run_append, cursors_run_of_leads hcurrent, storedIn]
  constructor
  · have htile := tile_of_ended hrun hended hpermits
    have hlow : loop.source.startHeight ≤ stored.height := by
      refine startHeight_le_of_ended hended hpermits ?_ stored hnow
      rw [hnone]
      intro c hc
      cases hc
    rw [hnone, hnow] at htile
    rwa [position, position, Int.max_eq_left hlow] at htile
  · intro x hx window hwindow
    obtain ⟨hfetched, hheld⟩ := fetched_and_held_of_ended (t := start) hended hx hwindow
    refine ⟨hfetched, fun adapter inquiry event r hr => ?_⟩
    obtain ⟨hasked, hget⟩ := hheld adapter inquiry event r hr
    simp only [History.tables, Tables.run_append]
    exact ⟨hasked, Tables.isSome_get?_run hget current⟩

def cursorAt (height step : Int) : Cursor :=
  { Cursor.ofSource .sample with height := height, step := step }

/-- The sample source is throttled, then advances over its smallest window, then cannot save, and
is about to look at the newest block once more. -/
def History.sample : (Poller.of .sample .sample).History {} where
  cycles :=
    [([loading (.of .sample .sample) (.ok none),
        looking (.of .sample .sample) (.error (.throttled "slow down")),
        saving (cursorAt 100 2) (.ok ())],
        .failed (.throttled "slow down")),
      ([loading (.of .sample .sample) (.ok (some (cursorAt 100 2))),
        looking (.of .sample .sample) (.ok 114),
        ⟨.fetch ⟨0, "sample"⟩ (inquiryFor (.of .sample .sample) ⟨100, 102⟩),
          .ok [⟨"tokentx", .null⟩]⟩,
        ⟨.recordOf ⟨0, "sample"⟩ (inquiryFor (.of .sample .sample) ⟨100, 102⟩) ⟨"tokentx", .null⟩,
          .ok Router.sampleRecord⟩,
        ⟨.addRecords [Router.sampleRecord], .ok ()⟩,
        saving (cursorAt 103 9) (.ok ())],
        .advanced ⟨100, 102⟩ 1 true),
      ([loading (.of .sample .sample) (.ok (some (cursorAt 103 9))),
        looking (.of .sample .sample) (.ok 124),
        ⟨.fetch ⟨0, "sample"⟩ (inquiryFor (.of .sample .sample) ⟨103, 112⟩), .ok []⟩,
        saving (cursorAt 113 9) (.error (.database "gone"))],
        .failed (.storage "Database error: gone"))]
  current := [loading (.of .sample .sample) (.ok (some (cursorAt 103 9)))]
  ended := by
    intro x hx
    simp only [List.mem_cons, List.not_mem_nil, or_false] at hx
    rcases hx with rfl | rfl | rfl
    · exact .ask (.ask (.ask (.nil _)))
    · exact .ask (.ask (.ask (.ask (.ask (.ask (.nil _))))))
    · exact .ask (.ask (.ask (.ask (.nil _))))
  underWay := ⟨_, _, .ask (.nil _)⟩
  permitted := ⟨rfl, trivial, trivial, rfl, trivial, trivial, trivial, trivial, trivial, rfl,
    trivial, trivial, trivial, rfl, trivial⟩

/-- The stored position is behind the one window that was advanced over, not behind the one that was
delivered only. -/
theorem windows_tile_and_records_held_sample :
    Config.sample.Valid ∧ Source.sample ∈ Config.sample.sources ∧
      ({} : Tables).cursors = .empty ∧
      History.sample.tables.cursors.find? "sample" .ethereum = some (cursorAt 103 9) ∧
      History.sample.windows = [⟨100, 102⟩] ∧
      Window.Tile 100 History.sample.windows 103 ∧
      ∀ x ∈ History.sample.cycles, ∀ window, x.2.window? = some window →
        x.1.filterMap fetchedWindow? = [window] ∧
          ∀ adapter inquiry event r, ⟨.recordOf adapter inquiry event, .ok r⟩ ∈ x.1 →
            inquiry.window = some window ∧
              (History.sample.tables.records.get? r.identifier).isSome := by
  have hvalid : Config.sample.Valid := by decide
  have hsource : Source.sample ∈ Config.sample.sources := List.mem_singleton.2 rfl
  have hstored : History.sample.tables.cursors.find? "sample" .ethereum =
      some (cursorAt 103 9) := rfl
  exact ⟨hvalid, hsource, rfl, hstored, rfl,
    windows_tile_and_records_held hvalid hsource rfl History.sample hstored⟩

end Poller

end ChainCrawl
