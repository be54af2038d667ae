import ChainCrawl.Poller.Words
import ChainCrawl.Proofs.Poller.Coverage

namespace ChainCrawl

open Proc
open WordCrawl (spared fitting)

/-- The cursor is that of a source. -/
def Cursor.IsOf (c : Cursor) (source : Source) : Prop :=
  c.sourceKey = source.key ∧ c.network = source.network

/-- Of the cursors, the request concerns that of the source only. -/
def WorkRequest.Concerns (source : Source) : WorkRequest → Prop
  | .loadCursor key network => key = source.key ∧ network = source.network
  | .saveCursor c => c.IsOf source
  | _ => True

/-- A cursor that the exchange tells is that of the source. -/
def TellsOwn (source : Source) : Exchange surroundings → Prop
  | ⟨.loadCursor _ _, .ok (some c)⟩ => c.IsOf source
  | _ => True

section KeepsTo

variable {α β : Type} {source : Source}

/-- As long as a procedure is told no other cursor, its requests concern the cursor of the source
only; and what it ends with is as told. -/
def KeepsTo (source : Source) (told : α → Prop) : Work α → Prop
  | Proc.done a => told a
  | Proc.ask r next => r.Concerns source ∧
    ∀ answer, TellsOwn source ⟨r, answer⟩ → KeepsTo source told (next answer)

theorem KeepsTo.bind {told : α → Prop} {told' : β → Prop} {p : Work α} {f : α → Work β}
    (h : KeepsTo source told p) (hnext : ∀ a, told a → KeepsTo source told' (f a)) :
    KeepsTo source told' (p.bind f) := by
  induction p with
  | done a => exact hnext a h
  | ask r next ih => exact ⟨h.1, fun answer hanswer => ih answer (h.2 answer hanswer)⟩

/-- What no run of a procedure does, the procedure does not do. -/
theorem keepsTo_of_ends {told : α → Prop} {p : Work α}
    (h : ∀ exchanges a, p.Ends exchanges a → (∀ e ∈ exchanges, e.1.Concerns source) ∧ told a) :
    KeepsTo source told p := by
  induction p with
  | done a => exact (h [] a (.nil _)).2
  | ask r next ih =>
    constructor
    · obtain ⟨exchanges, a, hends⟩ := (Proc.ask r next).exists_ends
      obtain ⟨answer, rest, rfl, -⟩ := ends_ask_iff.1 hends
      exact (h _ a hends).1 _ List.mem_cons_self
    · intro answer _
      refine ih answer fun exchanges a hends => ?_
      obtain ⟨hconcerns, htold⟩ := h _ a (.ask hends)
      exact ⟨fun e he => hconcerns e (List.mem_cons_of_mem _ he), htold⟩

variable {told : α → Prop} {told' : β → Prop}

/-- The same of a procedure that can fail or break off: its value is as told where it has one. -/
def KeepsToInWords (source : Source) (told : α → Prop) (p : WordCrawl α) : Prop :=
  KeepsTo source (fun b => ∀ a, b = some (.ok a) → told a) p.run.run

theorem KeepsToInWords.bind {p : WordCrawl α} {f : α → WordCrawl β}
    (h : KeepsToInWords source told p) (hnext : ∀ a, told a → KeepsToInWords source told' (f a)) :
    KeepsToInWords source told' (p >>= f) := by
  refine KeepsTo.bind h fun b hb => ?_
  cases b with
  | none =>
    intro a ha
    cases ha
  | some b =>
    cases b with
    | error e =>
      intro a ha
      cases ha
    | ok a => exact hnext a (hb a rfl)

theorem keepsToInWords_pure {a : α} (h : told a) :
    KeepsToInWords source told (pure a) := by
  intro a' ha'
  obtain rfl := Except.ok.inj (Option.some.inj ha')
  exact h

theorem keepsToInWords_spared {q : Crawl α}
    (h : ∀ exchanges b, q.run.Ends exchanges b →
      (∀ e ∈ exchanges, e.1.Concerns source) ∧ ∀ a, b = .ok a → told a) :
    KeepsToInWords source told (spared q) := by
  refine KeepsTo.bind (keepsTo_of_ends h) fun b hb => ?_
  intro a ha
  exact hb a (Option.some.inj ha)

theorem keepsToInWords_fitting {reckoned : Option α} (h : ∀ x, reckoned = some x → told x) :
    KeepsToInWords source told (fitting reckoned) := by
  cases reckoned with
  | none =>
    intro a ha
    cases ha
  | some x => exact keepsToInWords_pure (h x rfl)

theorem keepsToInWords_fitting_bind {reckoned : Option β} {f : β → WordCrawl α}
    (h : ∀ x, reckoned = some x → KeepsToInWords source told (f x)) :
    KeepsToInWords source told (fitting reckoned >>= f) := by
  cases reckoned with
  | none =>
    intro a ha
    cases ha
  | some x => exact h x rfl

end KeepsTo

/-- The cursor that an intent is about is that of the source. -/
def Intent.IsOf (source : Source) : Intent → Prop
  | .deliver c _ _ | .wait c _ _ => c.IsOf source
  | .stop => True

namespace Poller

variable {loop : Poller} {c : Cursor}

theorem keepsTo_giveUp {α : Type} {told : α → Prop} (hc : c.IsOf loop.source) (cause : Failure) :
    KeepsToInWords loop.source told (spared (loop.giveUp c cause)) := by
  refine keepsToInWords_spared fun exchanges b hends => ?_
  obtain ⟨hclosing, rfl⟩ := ends_giveUp_iff.1 hends
  refine ⟨?_, fun a ha => by cases ha⟩
  rintro ⟨r, answer⟩ he
  obtain hsave | ⟨entry, hlog⟩ := request_of_givingUp hclosing _ he
  · obtain rfl : r = .saveCursor c.shrunk := hsave
    exact hc
  · obtain rfl : r = .log entry := hlog
    trivial

theorem keepsTo_saveCursor (hc : c.IsOf loop.source) :
    KeepsToInWords loop.source (fun _ => True) (spared (saveCursor c)) := by
  refine keepsToInWords_spared fun exchanges b hends => ?_
  obtain ⟨saved, rfl, -⟩ := ends_saveCursor_iff.1 hends
  refine ⟨fun e he => ?_, fun _ _ => trivial⟩
  obtain rfl := List.mem_singleton.1 he
  exact hc

/-- A request that is not about cursors may be made at any time. -/
theorem keepsTo_ask {r : WorkRequest} (hr : r.Concerns loop.source) :
    KeepsToInWords loop.source (fun _ => True) (spared (Work.ask r)) := by
  refine keepsToInWords_spared fun exchanges b hends => ?_
  obtain ⟨answer, rfl, -⟩ := Work.ends_ask_iff.1 hends
  refine ⟨fun e he => ?_, fun _ _ => trivial⟩
  obtain rfl := List.mem_singleton.1 he
  exact hr

theorem keepsTo_deliver (inquiry : Inquiry) :
    KeepsToInWords loop.source (fun _ => True)
      (spared (ExceptT.lift (loop.router.deliver inquiry).run)) := by
  refine keepsToInWords_spared fun exchanges b hends => ?_
  obtain ⟨d, hdeliver, -⟩ := Work.ends_lift_iff.1 hends
  refine ⟨?_, fun _ _ => trivial⟩
  rintro ⟨r, answer⟩ he
  obtain hread | ⟨batch, hbatch⟩ := Router.request_of_ends_deliver hdeliver _ he
  · cases r with
    | fetch | recordOf | log => trivial
    | _ => exact hread.elim
  · obtain rfl : r = .addRecords batch := hbatch
    trivial

theorem keepsTo_confirmedHeight (hc : c.IsOf loop.source) :
    KeepsToInWords loop.source (fun _ => True) (loop.confirmedHeightInWords c) := by
  refine (keepsTo_ask (r := .headHeight _) trivial).bind fun answer _ => ?_
  cases answer with
  | error e => exact keepsTo_giveUp hc _
  | ok head => exact keepsToInWords_fitting fun _ _ => trivial

theorem keepsTo_look (hc : c.IsOf loop.source) {early : Int → Int → WordCrawl Intent}
    (hearly : ∀ safeHeight needed,
      KeepsToInWords loop.source (Intent.IsOf loop.source) (early safeHeight needed)) :
    KeepsToInWords loop.source (Intent.IsOf loop.source) (do
      let height ← loop.confirmedHeightInWords c
      match ← fitting (c.planInWord? height) with
      | .ready window => return .deliver c height window
      | .early safeHeight needed => early safeHeight needed) := by
  refine (keepsTo_confirmedHeight hc).bind fun height _ => ?_
  refine keepsToInWords_fitting_bind fun plan _ => ?_
  cases plan with
  | ready window => exact keepsToInWords_pure hc
  | early safeHeight needed => exact hearly safeHeight needed

theorem keepsTo_planFrom (hc : c.IsOf loop.source) :
    KeepsToInWords loop.source (Intent.IsOf loop.source) (loop.planFromInWords c) := by
  refine keepsTo_look hc fun _ _ => ?_
  refine (keepsTo_ask (r := .sleep _) trivial).bind fun _ _ => ?_
  exact keepsTo_look hc fun _ _ => keepsToInWords_pure hc

/-- The cursor that a loop loads is its own. -/
theorem keepsTo_load :
    KeepsToInWords loop.source (fun stored => ∀ c, stored = some c → c.IsOf loop.source)
      (spared (Work.fromTable
        (Work.call (.loadCursor loop.source.key loop.source.network)))) := by
  refine ⟨⟨rfl, rfl⟩, fun answer hanswer stored hstored c hc => ?_⟩
  subst hc
  cases answer with
  | error e => cases hstored
  | ok answer =>
    cases hstored
    exact hanswer

theorem keepsTo_intent :
    KeepsToInWords loop.source (Intent.IsOf loop.source) loop.intentInWords := by
  refine keepsTo_load.bind fun stored hstored => ?_
  cases hstart : loop.startCursor stored with
  | none => exact keepsToInWords_pure trivial
  | some c => exact keepsTo_planFrom (source_of_startCursor hstart hstored)

theorem keepsTo_advance (hc : c.IsOf loop.source) (safeHeight : Int) (window : Window) :
    KeepsToInWords loop.source (fun _ => True) (loop.advanceInWords c safeHeight window) := by
  refine (keepsTo_deliver _).bind fun result _ => ?_
  cases result with
  | error cause => exact keepsTo_giveUp hc cause
  | ok d =>
    refine keepsToInWords_fitting_bind fun moved hmoved => ?_
    obtain ⟨_, -, rfl⟩ := Option.map_eq_some_iff.1 hmoved
    refine KeepsToInWords.bind (keepsTo_saveCursor hc) fun _ _ => ?_
    exact keepsToInWords_fitting_bind fun _ _ => keepsToInWords_pure trivial

theorem keepsTo_carryOut {intent : Intent} (h : intent.IsOf loop.source) :
    KeepsToInWords loop.source (fun _ => True) (loop.carryOutInWords intent) := by
  cases intent with
  | deliver c safeHeight window => exact keepsTo_advance h safeHeight window
  | stop =>
    refine keepsToInWords_spared fun exchanges b hends => ?_
    obtain ⟨rfl, -⟩ := ends_run_pure_iff.1 hends
    exact ⟨List.forall_mem_nil _, fun _ _ => trivial⟩
  | wait c safeHeight needed =>
    refine keepsToInWords_spared fun exchanges b hends => ?_
    obtain ⟨_, hsave, -⟩ := ends_run_bind_pure_iff.1 hends
    obtain ⟨saved, rfl, -⟩ := ends_saveCursor_iff.1 hsave
    refine ⟨fun e he => ?_, fun _ _ => trivial⟩
    obtain rfl := List.mem_singleton.1 he
    exact h

/-- No premise on the loop is needed: a cycle concerns no other source's cursor. -/
theorem keepsTo_cycle : KeepsTo loop.source (fun _ => True) loop.cycleInWords := by
  refine KeepsTo.bind (keepsTo_intent.bind fun intent => keepsTo_carryOut) fun b _ => ?_
  obtain _ | _ | _ := b <;> trivial

end Poller

end ChainCrawl
