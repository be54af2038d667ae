import ChainCrawl.Proofs.Poller.Words

namespace ChainCrawl.Poller

open Proc

/-- A cycle begins with the exchanges, whether it reckons in words or without bounds. -/
def Begins (loop : Poller) (exchanges : List (Exchange surroundings)) : Prop :=
  (∃ q, loop.cycle.Leads exchanges q) ∨ ∃ q, loop.cycleInWords.Leads exchanges q

theorem Begins.exists_leads {loop : Poller} {exchanges : List (Exchange surroundings)}
    (h : loop.Begins exchanges) : ∃ q, loop.cycle.Leads exchanges q := by
  obtain hunbounded | ⟨q, hwords⟩ := h
  · exact hunbounded
  · exact exists_leads_of_leads_cycleInWords hwords

/-- Every window that is fetched begins at the position of the stored cursor, is as large as the two
steps of the source allow, and ends no higher than the confirmations below the newest block; and so
does every window that is handed over, even where no adapter serves it. No premise on the stored
cursor or on the told heights is needed: the cursor may have been stored under other settings, any
height may be negative, and it need not fit its word. -/
theorem window_confirmed_and_bounded {config : Config} (hvalid : config.Valid) {source : Source}
    (hsource : source ∈ config.sources) (router : Router) {t : Tables}
    {exchanges : List (Exchange surroundings)} (hpermits : t.Permits exchanges)
    (hbegins : (Poller.of source router).Begins exchanges) :
    (∀ adapter inquiry answer, ⟨.fetch adapter inquiry, answer⟩ ∈ exchanges →
      ∃ window, inquiry.window = some window ∧
        (Poller.of source router).Confirmed t exchanges window) ∧
      ∀ window, (Poller.of source router).HandsOver exchanges window →
        ((Poller.of source router).inquiryFor window).window = some window ∧
          (Poller.of source router).Confirmed t exchanges window := by
  have hrun := hvalid.runnable hsource
  constructor
  · intro adapter inquiry answer hfetch
    obtain ⟨q, hcycle⟩ := hbegins.exists_leads
    obtain ⟨window, rfl, hhands⟩ := handsOver_of_inquiry? hcycle hfetch rfl
    exact ⟨window, rfl, confirmed_of_handsOver hrun hpermits hhands⟩
  · intro window hhands
    exact ⟨rfl, confirmed_of_handsOver hrun hpermits hhands⟩

/-- A cursor below the source's start and with too wide a step, stored under other settings; the
first height is negative, and the second is just enough. -/
theorem window_confirmed_and_bounded_sample :
    Config.sample.Valid ∧ Source.sample ∈ Config.sample.sources ∧
      ∃ (t : Tables) (stored : Cursor) (exchanges : List (Exchange surroundings))
        (inquiry : Inquiry),
        t.cursors.find? Source.sample.key Source.sample.network = some stored ∧
        stored.height = -5 ∧ stored.step = 1000 ∧ stored.minStep = 0 ∧
        t.Permits exchanges ∧ (Poller.of Source.sample .sample).Begins exchanges ∧
        (∃ q, (Poller.of Source.sample .sample).cycleInWords.Leads exchanges q) ∧
        ⟨.fetch ⟨0, "sample"⟩ inquiry, .ok []⟩ ∈ exchanges ∧
        inquiry.window = some ⟨100, 109⟩ ∧ lastHead? exchanges = some 121 ∧
        (Poller.of Source.sample .sample).HandsOver exchanges ⟨100, 109⟩ ∧
        (Poller.of Source.sample .sample).Confirmed t exchanges ⟨100, 109⟩ := by
  let stored : Cursor := ⟨Source.sample.key, Source.sample.network, -5, 1000, 0, 3, 7⟩
  let t : Tables := { cursors := CursorTable.empty.put stored }
  let survey : List (Exchange surroundings) :=
    [loading (.of .sample .sample) (.ok (some stored)), looking (.of .sample .sample) (.ok (-7)),
      ⟨.sleep 1000, ()⟩, looking (.of .sample .sample) (.ok 121)]
  let fetching : Exchange surroundings :=
    ⟨.fetch ⟨0, "sample"⟩ (inquiryFor (.of .sample .sample) ⟨100, 109⟩), .ok []⟩
  have hpermits : t.Permits (survey ++ [fetching]) :=
    ⟨rfl, trivial, trivial, trivial, trivial, trivial⟩
  have hwords : ∃ q, (Poller.of .sample .sample).cycleInWords.Leads (survey ++ [fetching]) q :=
    ⟨_, .ask (.ask (.ask (.ask (.ask (.nil _)))))⟩
  have hmem : fetching ∈ survey ++ [fetching] := List.mem_append_right _ List.mem_cons_self
  have hvalid : Config.sample.Valid := by decide
  have hsource : Source.sample ∈ Config.sample.sources := List.mem_singleton.2 rfl
  obtain ⟨hfetched, -⟩ :=
    window_confirmed_and_bounded hvalid hsource .sample hpermits (.inr hwords)
  obtain ⟨q, hcycle⟩ := Begins.exists_leads (.inr hwords)
  obtain ⟨handed, hinquiry, hhands⟩ := handsOver_of_inquiry? hcycle hmem rfl
  obtain ⟨window, hwindow, hconfirmed⟩ := hfetched _ _ _ hmem
  obtain rfl : (⟨100, 109⟩ : Window) = window := Option.some.inj hwindow
  obtain rfl : (⟨100, 109⟩ : Window) = handed := Option.some.inj (congrArg Inquiry.window hinquiry)
  exact ⟨hvalid, hsource, t, stored, survey ++ [fetching], _, rfl, rfl, rfl, rfl, hpermits,
    .inr hwords, hwords, hmem, rfl, rfl, hhands, hconfirmed⟩

end ChainCrawl.Poller
