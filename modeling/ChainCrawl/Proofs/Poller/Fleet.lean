import ChainCrawl.Proofs.Poller.Commit
import ChainCrawl.Proofs.Table.Cursor
import Mathlib.Logic.Function.Basic
import Mathlib.Logic.Relation

namespace ChainCrawl

open Proc

/-- The exchanges have a delivery among them that succeeded, and what it fetched was the window. -/
def Poller.Delivered (loop : Poller) (exchanges : List (Exchange surroundings))
    (window : Window) : Prop :=
  ∃ before delivering after d, exchanges = before ++ (delivering ++ after) ∧
    (loop.router.deliver (loop.inquiryFor window)).run.Ends delivering (.ok d) ∧
    delivering.filterMap fetchedWindow? = [window]

theorem Poller.Delivered.append {loop : Poller} {exchanges : List (Exchange surroundings)}
    {window : Window} (h : loop.Delivered exchanges window)
    (more : List (Exchange surroundings)) : loop.Delivered (exchanges ++ more) window := by
  obtain ⟨before, delivering, after, d, rfl, hdeliver, hfetched⟩ := h
  exact ⟨before, delivering, after ++ more, d, by simp, hdeliver, hfetched⟩

/-- Loops over shared tables. -/
structure Fleet (ι : Type) where
  tables : Tables
  /-- What is left of the cycle of each loop. -/
  pending : ι → Work CycleEnd
  /-- The exchanges that each loop has made. -/
  exchanges : ι → List (Exchange surroundings)

namespace Fleet

variable {ι : Type} (loops : ι → Poller)

/-- Every loop is about to begin its first cycle. -/
def start (t : Tables) : Fleet ι where
  tables := t
  pending := fun i => (loops i).cycle
  exchanges := fun _ => []

/-- The height lies in a window that some loop has delivered. -/
def Covers (s : Fleet ι) (height : Int) : Prop :=
  ∃ i window, (loops i).Delivered (s.exchanges i) window ∧ window.Covers height

/-- Every height from the start on below a position lies in a delivered window. -/
def CoversBelow (s : Fleet ι) (first position : Int) : Prop :=
  ∀ height, first ≤ height → height < position → s.Covers loops height

/-- Every loop is in the midst of a cycle; and below the stored position, and below the position of
each cursor that was loaded in a cycle under way, all has been delivered. -/
structure Sound (key : String) (network : Network) (first : Int) (s : Fleet ι) : Prop where
  underWay : ∀ i, ∃ earlier current, s.exchanges i = earlier ++ current ∧
    (loops i).cycle.Leads current (s.pending i) ∧
    ∀ c, (loops i).loading (.ok (some c)) ∈ current → s.CoversBelow loops first c.height
  stored : ∀ c, s.tables.cursors.find? key network = some c → s.CoversBelow loops first c.height

/-- The loops have one source name and one start; all else may differ. -/
structure Alike (key : String) (network : Network) (first : Int) : Prop where
  key_eq : ∀ i, (loops i).source.key = key
  network_eq : ∀ i, (loops i).source.network = network
  startHeight_eq : ∀ i, (loops i).source.startHeight = first

variable {loops} {s s' : Fleet ι} {key : String} {network : Network} {first : Int}

theorem sound_start {t : Tables} (hempty : t.cursors = .empty) :
    (start loops t).Sound loops key network first where
  underWay i := ⟨[], [], rfl, .nil _, fun c hc => by cases hc⟩
  stored c hc := by
    rw [start, hempty, CursorTable.find?_empty] at hc
    cases hc

/-- Below the position that a loop goes out from all has been delivered, since that position is the
one of the cursor that it loaded. -/
theorem coversBelow_of_startCursor {loop : Poller} {stored : Option Cursor} {c : Cursor}
    (hfirst : loop.source.startHeight = first) (hstart : loop.startCursor stored = some c)
    (hstored : ∀ old, stored = some old → s.CoversBelow loops first old.height) :
    s.CoversBelow loops first c.height := by
  intro height hle hlt
  rw [Poller.height_of_startCursor hstart] at hlt
  cases stored with
  | none =>
    rw [Poller.position, hfirst] at hlt
    omega
  | some old =>
    rw [Poller.position, hfirst] at hlt
    exact hstored old rfl height hle (by omega)

/-- A loop that stands before a save has delivered all below the position that it saves. -/
theorem Sound.coversBelow_of_save (hs : s.Sound loops key network first)
    (halike : Alike loops key network first) {i : ι} {c : Cursor}
    {answer : Except TableFailure Unit → Work CycleEnd}
    (hpending : s.pending i = Proc.ask (WorkRequest.saveCursor c) answer) :
    s.CoversBelow loops first c.height := by
  obtain ⟨earlier, current, hexchanges, hleads, hloaded⟩ := hs.underWay i
  rw [hpending] at hleads
  obtain ⟨stored, loaded, body, window, rfl, hstart, hnext⟩ :=
    Poller.successor_of_leads_save hleads
  have hbelow : s.CoversBelow loops first loaded.height := by
    refine coversBelow_of_startCursor (halike.startHeight_eq i) hstart ?_
    rintro old rfl
    exact hloaded old List.mem_cons_self
  cases hnext with
  | shrunk => exact hbelow
  | @past looks delivering d hdeliver =>
    intro height hle hlt
    by_cases hloadedHeight : height < loaded.height
    · exact hbelow height hle hloadedHeight
    · refine ⟨i, ⟨loaded.height, loaded.height + loaded.step⟩, ?_,
        Int.not_lt.1 hloadedHeight, ?_⟩
      · refine ⟨earlier ++ (loops i).loading (.ok stored) :: looks, delivering, [], d, ?_, hdeliver,
          Router.fetchedWindows_of_ends_deliver_ok hdeliver⟩
        simp [hexchanges]
      · dsimp only [Stride.past] at hlt ⊢
        omega

/-- Below the stored position all stays delivered over an exchange. -/
theorem Sound.stored_exchange (hs : s.Sound loops key network first)
    (halike : Alike loops key network first) {i : ι} {r : WorkRequest}
    {next : r.Answer → Work CycleEnd} {answer : r.Answer} (hpending : s.pending i = Proc.ask r next)
    {c : Cursor} (hc : (s.tables.after ⟨r, answer⟩).cursors.find? key network = some c) :
    s.CoversBelow loops first c.height := by
  obtain ⟨saved, u, heq⟩ | hcursors := s.tables.save_or_cursors_after ⟨r, answer⟩
  · cases heq
    have hbelow := hs.coversBelow_of_save halike hpending
    simp only [Tables.after, CursorTable.find?_put] at hc
    split at hc
    · obtain rfl := Option.some.inj hc
      cases hold : s.tables.cursors.find? key network with
      | none => exact hbelow
      | some old =>
        intro height hle hlt
        by_cases hsaved : height < saved.height
        · exact hbelow height hle hsaved
        · refine hs.stored old hold height hle ?_
          dsimp only [CursorTable.advanced] at hlt
          omega
    · exact hs.stored c hc
  · rw [hcursors] at hc
    exact hs.stored c hc

variable [DecidableEq ι] (loops)

/-- A loop has made an exchange. -/
def exchange (s : Fleet ι) (i : ι) (e : Exchange surroundings) (next : Work CycleEnd) :
    Fleet ι where
  tables := s.tables.after e
  pending := Function.update s.pending i next
  exchanges := Function.update s.exchanges i (s.exchanges i ++ [e])

/-- A loop begins another cycle. -/
def restart (s : Fleet ι) (i : ι) : Fleet ι :=
  { s with pending := Function.update s.pending i (loops i).cycle }

/-- One loop makes its next exchange, in which the tables may fail but tell nothing wrong, or begins
its next cycle. -/
inductive Step : Fleet ι → Fleet ι → Prop where
  | exchange {s : Fleet ι} {i : ι} {r : WorkRequest} {next : r.Answer → Work CycleEnd}
      (hpending : s.pending i = Proc.ask r next) (answer : r.Answer)
      (hallows : s.tables.Allows ⟨r, answer⟩) : Step s (s.exchange i ⟨r, answer⟩ (next answer))
  | restart {s : Fleet ι} {i : ι} {outcome : CycleEnd} (hpending : s.pending i = .done outcome) :
      Step s (s.restart loops i)

/-- What the loops come to from one another, step after step. -/
def Reaches : Fleet ι → Fleet ι → Prop :=
  Relation.ReflTransGen (Step loops)

variable {loops}

theorem Covers.exchange {height : Int} (h : s.Covers loops height) (i : ι)
    (e : Exchange surroundings) (next : Work CycleEnd) :
    (s.exchange i e next).Covers loops height := by
  obtain ⟨j, window, hdelivered, hcovers⟩ := h
  refine ⟨j, window, ?_, hcovers⟩
  by_cases hj : j = i
  · subst hj
    simpa [Fleet.exchange] using hdelivered.append [e]
  · simpa [Fleet.exchange, Function.update_of_ne hj] using hdelivered

theorem CoversBelow.exchange {position : Int} (h : s.CoversBelow loops first position) (i : ι)
    (e : Exchange surroundings) (next : Work CycleEnd) :
    (s.exchange i e next).CoversBelow loops first position :=
  fun height hfirst hlt => (h height hfirst hlt).exchange i e next

theorem Sound.exchange (hs : s.Sound loops key network first)
    (halike : Alike loops key network first) {i : ι} {r : WorkRequest}
    {next : r.Answer → Work CycleEnd} {answer : r.Answer} (hpending : s.pending i = Proc.ask r next)
    (hallows : s.tables.Allows ⟨r, answer⟩) :
    (s.exchange i ⟨r, answer⟩ (next answer)).Sound loops key network first where
  stored c hc := (hs.stored_exchange halike hpending hc).exchange i _ _
  underWay j := by
    obtain ⟨earlier, current, hexchanges, hleads, hloaded⟩ := hs.underWay j
    by_cases hj : j = i
    · subst hj
      rw [hpending] at hleads
      refine ⟨earlier, current ++ [⟨r, answer⟩], ?_, ?_, ?_⟩
      · simp [Fleet.exchange, hexchanges]
      · simpa [Fleet.exchange] using hleads.append (.ask (.nil (next answer)))
      · intro c hc
        obtain hc | hc := List.mem_append.1 hc
        · exact (hloaded c hc).exchange j _ _
        · cases List.mem_singleton.1 hc
          have hstored : s.tables.cursors.find? key network = some c := by
            rw [← halike.key_eq j, ← halike.network_eq j]
            exact hallows.symm
          exact (hs.stored c hstored).exchange j _ _
    · refine ⟨earlier, current, ?_, ?_, fun c hc => (hloaded c hc).exchange i _ _⟩
      · simpa [Fleet.exchange, Function.update_of_ne hj] using hexchanges
      · simpa [Fleet.exchange, Function.update_of_ne hj] using hleads

theorem Sound.restart (hs : s.Sound loops key network first) (i : ι) :
    (s.restart loops i).Sound loops key network first where
  stored := hs.stored
  underWay j := by
    by_cases hj : j = i
    · subst hj
      refine ⟨s.exchanges j, [], by simp [Fleet.restart], ?_, fun c hc => by cases hc⟩
      simpa [Fleet.restart] using Leads.nil (loops j).cycle
    · obtain ⟨earlier, current, hexchanges, hleads, hloaded⟩ := hs.underWay j
      refine ⟨earlier, current, hexchanges, ?_, hloaded⟩
      simpa [Fleet.restart, Function.update_of_ne hj] using hleads

theorem Sound.step (hs : s.Sound loops key network first)
    (halike : Alike loops key network first) (h : Step loops s s') :
    s'.Sound loops key network first := by
  cases h with
  | exchange hpending answer hallows => exact hs.exchange halike hpending hallows
  | restart => exact hs.restart _

theorem sound_of_reaches {t : Tables} (halike : Alike loops key network first)
    (hempty : t.cursors = .empty) (h : Reaches loops (start loops t) s) :
    s.Sound loops key network first := by
  induction h with
  | refl => exact sound_start hempty
  | tail _ hstep ih => exact ih.step halike hstep

/-- No premise on the loop that makes the exchange is needed: the table itself keeps the higher
position. -/
theorem le_height_of_step {c : Cursor} (h : Step loops s s')
    (hc : s.tables.cursors.find? key network = some c) :
    ∃ c', s'.tables.cursors.find? key network = some c' ∧ c.height ≤ c'.height := by
  cases h with
  | restart => exact ⟨c, hc, Int.le_refl _⟩
  | @exchange i r next hpending answer hallows =>
    obtain ⟨saved, u, heq⟩ | hcursors := s.tables.save_or_cursors_after ⟨r, answer⟩
    · cases heq
      exact CursorTable.le_height_of_put hc saved
    · refine ⟨c, ?_, Int.le_refl _⟩
      rw [Fleet.exchange, hcursors]
      exact hc

theorem le_height_of_reaches {c : Cursor} (h : Reaches loops s s')
    (hc : s.tables.cursors.find? key network = some c) :
    ∃ c', s'.tables.cursors.find? key network = some c' ∧ c.height ≤ c'.height := by
  induction h with
  | refl => exact ⟨c, hc, Int.le_refl _⟩
  | tail _ hstep ih =>
    obtain ⟨middle, hmiddle, hle⟩ := ih
    obtain ⟨c', hc', hle'⟩ := le_height_of_step hstep hmiddle
    exact ⟨c', hc', Int.le_trans hle hle'⟩

/-- Where loops with one source name and one start share the tables, the stored position never goes
back, whichever of them makes the next exchange, and every height below it lies in a window that
some loop has fetched and delivered. No premise on the steps or the confirmations of the loops is
needed, and none on how many loops there are. -/
theorem stored_covered_and_never_back {t : Tables} (halike : Alike loops key network first)
    (hempty : t.cursors = .empty) (hs : Reaches loops (start loops t) s) {c : Cursor}
    (hc : s.tables.cursors.find? key network = some c) :
    (∀ height, first ≤ height → height < c.height →
      ∃ i window, (loops i).Delivered (s.exchanges i) window ∧ window.Covers height) ∧
      ∀ s', Reaches loops s s' →
        ∃ c', s'.tables.cursors.find? key network = some c' ∧ c.height ≤ c'.height := by
  have hsound := sound_of_reaches halike hempty hs
  exact ⟨hsound.stored c hc, fun s' hs' => le_height_of_reaches hs' hc⟩

/-- Two loops on the sample source; the second takes smaller steps and waits for no
confirmations. -/
def sampleLoops : Bool → Poller
  | false => .of .sample .sample
  | true => .of { Source.sample with step := 4, minStep := 1, confirmations := 0 } .sample

theorem alike_sampleLoops : Alike sampleLoops "sample" .ethereum 100 where
  key_eq i := by cases i <;> rfl
  network_eq i := by cases i <;> rfl
  startHeight_eq i := by cases i <;> rfl

/-- Both loops find no cursor. The first saves its position behind the window from 100 to 109, and
then the second saves one behind the window from 100 to 104. -/
theorem stored_covered_and_never_back_sample :
    Alike sampleLoops "sample" .ethereum 100 ∧ ({} : Tables).cursors = .empty ∧
      ∃ s c, Reaches sampleLoops (start sampleLoops {}) s ∧
        s.tables.cursors.find? "sample" .ethereum = some c ∧ c.height = 110 ∧ c.step = 4 ∧
        (∀ height, 100 ≤ height → height < c.height →
          ∃ i window, (sampleLoops i).Delivered (s.exchanges i) window ∧ window.Covers height) ∧
        ∀ s', Reaches sampleLoops s s' →
          ∃ c', s'.tables.cursors.find? "sample" .ethereum = some c' ∧ c.height ≤ c'.height := by
  have h₀ : Reaches sampleLoops (start sampleLoops {}) (start sampleLoops {}) := .refl
  have h₁ := h₀.tail
    (.exchange (i := false) (r := .loadCursor "sample" .ethereum) rfl (.ok none) rfl)
  have h₂ := h₁.tail
    (.exchange (i := true) (r := .loadCursor "sample" .ethereum) rfl (.ok none) rfl)
  have h₃ := h₂.tail (.exchange (i := false) (r := .headHeight .ethereum) rfl (.ok 121) trivial)
  have h₄ := h₃.tail (.exchange (i := false) (r := .fetch _ _) rfl (.ok []) trivial)
  have h₅ := h₄.tail (.exchange (i := false) (r := .saveCursor _) rfl (.ok ()) trivial)
  have h₆ := h₅.tail (.exchange (i := true) (r := .headHeight .ethereum) rfl (.ok 130) trivial)
  have h₇ := h₆.tail (.exchange (i := true) (r := .fetch _ _) rfl (.ok []) trivial)
  have h₈ := h₇.tail (.exchange (i := true) (r := .saveCursor _) rfl (.ok ()) trivial)
  exact ⟨alike_sampleLoops, rfl, _, _, h₈, rfl, rfl, rfl,
    stored_covered_and_never_back alike_sampleLoops rfl h₈ rfl⟩

end Fleet

end ChainCrawl
