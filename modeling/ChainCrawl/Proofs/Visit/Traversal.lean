import ChainCrawl.Proofs.Visit.Paging
import Mathlib.Data.List.Perm.Subperm

namespace ChainCrawl

open Proc

/-- The request cannot take the member away. -/
def Leaves (member : String) : WorkRequest → Prop
  | .removeVisit other => other ≠ member
  | .dropVisitsBelow _ => False
  | _ => True

/-- The request takes no member away. -/
def TakesNone (r : WorkRequest) : Prop :=
  ∀ member, Leaves member r

/-- The score that a member was given in an exchange. -/
def givenTo? (member : String) : Exchange surroundings → Option Int
  | ⟨.upsertVisit other score, .ok _⟩ => if other = member then some score else none
  | _ => none

namespace Tables

variable {t : Tables} {member : String} {score : Int} {exchanges : List (Exchange surroundings)}

theorem scoreOf?_after {x : Exchange surroundings} (h : t.visits.scoreOf? member = some score)
    (hleaves : Leaves member x.1) :
    (t.after x).visits.scoreOf? member = some ((givenTo? member x).elim score (max score)) := by
  obtain ⟨r, answer⟩ := x
  cases r with
  | upsertVisit other given =>
    cases answer with
    | error e => exact h
    | ok u =>
      rw [after, VisitTable.scoreOf?_upsert, h, givenTo?]
      split <;> rfl
  | removeVisit other =>
    cases answer with
    | error e => exact h
    | ok removed =>
      rw [after, VisitTable.scoreOf?_erase, if_neg hleaves]
      exact h
  | dropVisitsBelow least => exact hleaves.elim
  | saveCursor | addRecords => cases answer <;> exact h
  | _ => exact h

/-- A member that is not taken away has the highest of its score and of those that it was given. -/
theorem scoreOf?_run (h : t.visits.scoreOf? member = some score)
    (hleaves : ∀ x ∈ exchanges, Leaves member x.1) :
    (t.run exchanges).visits.scoreOf? member =
      some ((exchanges.filterMap (givenTo? member)).foldl max score) := by
  induction exchanges generalizing t score with
  | nil => exact h
  | cons x rest ih =>
    have hafter := scoreOf?_after h (hleaves x List.mem_cons_self)
    have hrest := ih hafter fun y hy => hleaves y (List.mem_cons_of_mem _ hy)
    rw [run_cons, hrest, List.filterMap_cons]
    cases givenTo? member x <;> rfl

/-- A member that is held was held before, or has been added. -/
theorem mem_visits_after {x : Exchange surroundings} {v : Visit}
    (h : v ∈ (t.after x).visits.visits) :
    (∃ w ∈ t.visits.visits, w.1 = v.1) ∨ ∃ given, x.1 = .upsertVisit v.1 given := by
  have hheld : v ∈ t.visits.visits → ∃ w ∈ t.visits.visits, w.1 = v.1 := fun hv => ⟨v, hv, rfl⟩
  obtain ⟨r, answer⟩ := x
  cases r with
  | upsertVisit other given =>
    cases answer with
    | error e => exact .inl (hheld h)
    | ok u =>
      obtain rfl | hv := mem_upsertVisit h
      · exact .inr ⟨given, rfl⟩
      · exact .inl (hheld hv)
  | removeVisit other =>
    cases answer with
    | error e => exact .inl (hheld h)
    | ok removed => exact .inl (hheld (List.mem_filter.1 h).1)
  | dropVisitsBelow least =>
    cases answer with
    | error e => exact .inl (hheld h)
    | ok n => exact .inl (hheld (List.mem_filter.1 h).1)
  | saveCursor | addRecords => cases answer <;> exact .inl (hheld h)
  | _ => exact .inl (hheld h)

theorem mem_visits_run {v : Visit} (h : v ∈ (t.run exchanges).visits.visits) :
    (∃ w ∈ t.visits.visits, w.1 = v.1) ∨
      ∃ x ∈ exchanges, ∃ given, x.1 = .upsertVisit v.1 given := by
  induction exchanges generalizing t with
  | nil => exact .inl ⟨v, h, rfl⟩
  | cons x rest ih =>
    obtain ⟨w, hw, hname⟩ | ⟨y, hy, hadds⟩ := ih h
    · obtain hbefore | hadds := mem_visits_after hw
      · rw [hname] at hbefore
        exact .inl hbefore
      · rw [hname] at hadds
        exact .inr ⟨x, List.mem_cons_self, hadds⟩
    · exact .inr ⟨y, List.mem_cons_of_mem _ hy, hadds⟩

end Tables

theorem le_foldl_max (score : Int) (given : List Int) : score ≤ given.foldl max score := by
  induction given generalizing score with
  | nil => exact Int.le_refl _
  | cons g rest ih => exact Int.le_trans (Int.le_max_left _ _) (ih (max score g))

namespace VisitQueue

/-- A member that was visited: its visit as the page told it, what was exchanged for it, and how it
failed, if it did. -/
structure Stop where
  visit : Visit
  exchanges : List (Exchange surroundings)
  failure : Option PassFailure

/-- The visit of a member, with these exchanges, told that no pass can serve it: it is no inquiry,
or what was done with it failed for want of an adapter. -/
def Expels (f : Inquiry → Crawl Unit) (member : String) (exchanges : List (Exchange surroundings)) :
    Prop :=
  (∃ e, Inquiry.ofMember member = .error e) ∨
    ∃ p network platform serving, Inquiry.ofMember member = .ok p ∧ serving <+: exchanges ∧
      (f p).run.Ends serving (.error (.unserved network platform))

/-- How a pass came to its end. -/
inductive TourEnd where
  /-- There were more pages than it was to read. -/
  | cutOff
  /-- A page could not be read. -/
  | unread (e : TableFailure)
  /-- A page was not full. -/
  | whole

/-- What is reported of the members that were visited: their number, and the failures in the order
of the visits. -/
def TourEnd.report (stops : List Stop) : TourEnd → Option PassReport
  | cutOff => none
  | unread e => some ⟨stops.length, stops.filterMap (·.failure) ++ [.scan e.toFailure]⟩
  | whole => some ⟨stops.length, stops.filterMap (·.failure)⟩

/-- How a pass goes on behind a member, told by its stops. -/
inductive Tour (q : VisitQueue) (least : Int) (f : Inquiry → Crawl Unit) :
    Nat → Option String → List (Exchange surroundings) → List Stop → TourEnd → Prop where
  | cutOff (after : Option String) : Tour q least f 0 after [] [] .cutOff
  | unread {pages : Nat} {after : Option String} (e : TableFailure) :
      Tour q least f (pages + 1) after [q.reading least after (.error e)] [] (.unread e)
  | last {pages : Nat} {after : Option String} {stops : List Stop}
      (hstops : ∀ s ∈ stops, Encounter f s.visit.1 s.exchanges s.failure)
      (hlast : stops.length < q.pageSize ∨ stops = []) :
      Tour q least f (pages + 1) after
        (q.reading least after (.ok (stops.map (·.visit))) :: stops.flatMap (·.exchanges)) stops
        .whole
  | more {pages : Nat} {after : Option String} {stops later : List Stop} {s : Stop}
      {rest : List (Exchange surroundings)} {ending : TourEnd}
      (hstops : ∀ s ∈ stops, Encounter f s.visit.1 s.exchanges s.failure)
      (hfull : q.pageSize ≤ stops.length) (hlast : stops.getLast? = some s)
      (hrest : Tour q least f pages (some s.visit.1) rest later ending) :
      Tour q least f (pages + 1) after
        (q.reading least after (.ok (stops.map (·.visit))) ::
          (stops.flatMap (·.exchanges) ++ rest)) (stops ++ later) ending

variable {q : VisitQueue} {least : Int} {f : Inquiry → Crawl Unit} {pages : Nat}
  {after : Option String} {exchanges : List (Exchange surroundings)} {stops : List Stop}
  {ending : TourEnd} {t : Tables}

theorem Round.exists_stops {page : List Visit} {failures : List PassFailure}
    (h : Round f page exchanges failures) :
    ∃ stops : List Stop, stops.map (·.visit) = page ∧
      (∀ s ∈ stops, Encounter f s.visit.1 s.exchanges s.failure) ∧
      stops.flatMap (·.exchanges) = exchanges ∧ stops.filterMap (·.failure) = failures := by
  induction h with
  | nil => exact ⟨[], rfl, by simp, rfl, rfl⟩
  | @cons v rest first more failure failures hfirst hrest ih =>
    obtain ⟨stops, rfl, hstops, rfl, rfl⟩ := ih
    refine ⟨⟨v, first, failure⟩ :: stops, rfl, ?_, rfl, ?_⟩
    · exact List.forall_mem_cons.2 ⟨hfirst, hstops⟩
    · cases failure <;> rfl

/-- Every pass is a tour, and reports what is reported of its stops. -/
theorem Course.exists_tour {report : Option PassReport}
    (h : Course q least f pages after exchanges report) :
    ∃ stops ending, Tour q least f pages after exchanges stops ending ∧
      report = ending.report stops := by
  induction h with
  | cutOff after => exact ⟨[], .cutOff, .cutOff after, rfl⟩
  | unread e => exact ⟨[], .unread e, .unread e, rfl⟩
  | last hround hlast =>
    obtain ⟨stops, rfl, hstops, rfl, rfl⟩ := hround.exists_stops
    rw [List.length_map, List.map_eq_nil_iff] at hlast
    refine ⟨stops, .whole, .last hstops hlast, ?_⟩
    rw [List.length_map]
    rfl
  | more hround hfull hlast hrest ih =>
    obtain ⟨stops, rfl, hstops, rfl, rfl⟩ := hround.exists_stops
    obtain ⟨later, ending, htour, rfl⟩ := ih
    rw [List.length_map] at hfull
    rw [List.getLast?_map] at hlast
    obtain ⟨s, hs, rfl⟩ := Option.map_eq_some_iff.1 hlast
    refine ⟨stops ++ later, ending, .more hstops hfull hs htour, ?_⟩
    cases ending <;> simp [TourEnd.report, PassReport.append]

theorem Tour.encounters (h : Tour q least f pages after exchanges stops ending) :
    ∀ s ∈ stops, Encounter f s.visit.1 s.exchanges s.failure := by
  induction h with
  | cutOff | unread => simp
  | last hstops => exact hstops
  | more hstops _ _ _ ih => exact List.forall_mem_append.2 ⟨hstops, ih⟩

/-- Beside the exchanges of its stops a tour reads pages only. -/
theorem Tour.reads_or_stops (h : Tour q least f pages after exchanges stops ending) :
    ∀ x ∈ exchanges, (∃ after answer, x = q.reading least after answer) ∨
      x ∈ stops.flatMap (·.exchanges) := by
  induction h with
  | cutOff => simp
  | unread e => exact List.forall_mem_singleton.2 (.inl ⟨_, _, rfl⟩)
  | last => exact List.forall_mem_cons.2 ⟨.inl ⟨_, _, rfl⟩, fun x hx => .inr hx⟩
  | more _ _ _ _ ih =>
    refine List.forall_mem_cons.2 ⟨.inl ⟨_, _, rfl⟩, List.forall_mem_append.2 ⟨?_, ?_⟩⟩
    · intro x hx
      rw [List.flatMap_append]
      exact .inr (List.mem_append_left _ hx)
    · intro x hx
      rw [List.flatMap_append]
      exact (ih x hx).imp_right (List.mem_append_right _)

/-- The scores that a member is given are those that it is given while members are visited. -/
theorem Tour.filterMap_givenTo? (h : Tour q least f pages after exchanges stops ending)
    (member : String) : exchanges.filterMap (givenTo? member) =
      (stops.flatMap (·.exchanges)).filterMap (givenTo? member) := by
  induction h with
  | cutOff => rfl
  | unread e => rfl
  | last => exact List.filterMap_cons_none rfl
  | more _ _ _ _ ih =>
    refine (List.filterMap_cons_none rfl).trans ?_
    rw [List.filterMap_append, ih, List.flatMap_append, List.filterMap_append]

/-- A visit takes its own member away at most, and that only if no pass can serve it. -/
theorem Encounter.leaves (hf : AsksOnly f TakesNone) {visited : String}
    {failure : Option PassFailure} (h : Encounter f visited exchanges failure) {member : String}
    (hkept : visited = member → ¬ Expels f visited exchanges) :
    ∀ x ∈ exchanges, Leaves member x.1 := by
  have hremoved {removing : List (Exchange surroundings)} (hne : visited ≠ member)
      (hremoving : Removing visited removing) : ∀ x ∈ removing, Leaves member x.1 := by
    cases hremoving with
    | done removed => exact List.forall_mem_singleton.2 hne
    | failed e => exact List.forall_mem_cons.2 ⟨hne, List.forall_mem_singleton.2 trivial⟩
  cases h with
  | unread hread hremoving => exact hremoved (fun heq => hkept heq (.inl ⟨_, hread⟩)) hremoving
  | served hread hserving | failed hread hserving =>
    exact fun x hx => hf _ _ _ hserving x hx member
  | @refused p e serving removing hread hserving hpermanent hremoving =>
    cases e with
    | unserved network platform =>
      have hexpels : Expels f visited (serving ++ removing) :=
        .inr ⟨p, network, platform, serving, hread, List.prefix_append _ _, hserving⟩
      refine List.forall_mem_append.2 ⟨fun x hx => hf _ _ _ hserving x hx member, ?_⟩
      exact hremoved (fun heq => hkept heq hexpels) hremoving
    | _ => cases hpermanent

theorem leaves_of_stops (hf : AsksOnly f TakesNone)
    (hstops : ∀ s ∈ stops, Encounter f s.visit.1 s.exchanges s.failure) {member : String}
    (hkept : ∀ s ∈ stops, s.visit.1 = member → ¬ Expels f s.visit.1 s.exchanges) :
    ∀ x ∈ stops.flatMap (·.exchanges), Leaves member x.1 := by
  intro x hx
  obtain ⟨s, hs, hx⟩ := List.mem_flatMap.1 hx
  exact (hstops s hs).leaves hf (hkept s hs) x hx

/-- After a tour a member has the highest of its score and of those that it was given meanwhile,
unless no pass can serve it. -/
theorem Tour.scoreOf?_run (hf : AsksOnly f TakesNone)
    (h : Tour q least f pages after exchanges stops ending) {member : String} {score : Int}
    (hscore : t.visits.scoreOf? member = some score)
    (hkept : ∀ s ∈ stops, s.visit.1 = member → ¬ Expels f s.visit.1 s.exchanges) :
    (t.run exchanges).visits.scoreOf? member =
      some (((stops.flatMap (·.exchanges)).filterMap (givenTo? member)).foldl max score) := by
  rw [← h.filterMap_givenTo? member]
  refine Tables.scoreOf?_run hscore fun x hx => ?_
  obtain ⟨after, answer, rfl⟩ | hx := h.reads_or_stops x hx
  · trivial
  · exact leaves_of_stops hf h.encounters hkept x hx

/-- A page holds the next live members. -/
theorem page_of_permits {page : List Visit} {rest : List (Exchange surroundings)}
    (h : t.Permits (q.reading least after (.ok page) :: rest)) :
    page = (t.visits.liveAfter after least).take q.pageSize ∧ t.Permits rest :=
  h

section Page

variable (hpage : stops.map (·.visit) = (t.visits.liveAfter after least).take q.pageSize)
include hpage

theorem live_of_page {s : Stop} (hs : s ∈ stops) :
    s.visit ∈ t.visits.visits ∧ (∀ member, after = some member → member < s.visit.1) ∧
      least ≤ s.visit.2 :=
  VisitTable.mem_liveAfter_iff.1 (List.mem_of_mem_take (hpage ▸ List.mem_map_of_mem hs))

theorem ascending_of_page : Ascending (stops.map (·.visit)) :=
  hpage ▸ (t.visits.ascending_liveAfter after least).take

theorem le_last_of_page {last : Stop} (hlast : stops.getLast? = some last) {s : Stop}
    (hs : s ∈ stops) : s.visit.1 ≤ last.visit.1 := by
  have hlastVisit : (stops.map (·.visit)).getLast? = some last.visit := by
    rw [List.getLast?_map, hlast]
    rfl
  exact (ascending_of_page hpage).le_of_getLast? hlastVisit _ (List.mem_map_of_mem hs)

end Page

/-- The stops of a tour ascend, and lie behind its start. -/
theorem Tour.ascending (h : Tour q least f pages after exchanges stops ending)
    (hpermits : t.Permits exchanges) : Ascending (stops.map (·.visit)) ∧
      ∀ s ∈ stops, ∀ member, after = some member → member < s.visit.1 := by
  induction h generalizing t with
  | cutOff | unread => exact ⟨.nil, by simp⟩
  | last =>
    obtain ⟨hpage, -⟩ := page_of_permits hpermits
    exact ⟨ascending_of_page hpage, fun s hs => (live_of_page hpage hs).2.1⟩
  | @more pages after stops later last rest ending _ _ hlast _ ih =>
    obtain ⟨hpage, hpermits⟩ := page_of_permits hpermits
    obtain ⟨-, hpermitsRest⟩ := Tables.permits_append_iff.1 hpermits
    obtain ⟨hascending, hbehind⟩ := ih hpermitsRest
    have hlastStop : last ∈ stops := List.mem_of_getLast? hlast
    constructor
    · rw [List.map_append]
      refine List.pairwise_append.2 ⟨ascending_of_page hpage, hascending, fun v hv w hw => ?_⟩
      obtain ⟨s, hs, rfl⟩ := List.mem_map.1 hv
      obtain ⟨s', hs', rfl⟩ := List.mem_map.1 hw
      exact Std.lt_of_le_of_lt (le_last_of_page hpage hlast hs) (hbehind s' hs' _ rfl)
    · refine List.forall_mem_append.2 ⟨fun s hs => (live_of_page hpage hs).2.1, ?_⟩
      intro s hs member hmember
      exact String.lt_trans ((live_of_page hpage hlastStop).2.1 member hmember)
        (hbehind s hs _ rfl)

/-- A live member that lies behind a page is still there, and live, once the page has been gone
through: whatever was done with the members of the page has taken no other away. -/
theorem exists_live_after_stops (hf : AsksOnly f TakesNone)
    (hstops : ∀ s ∈ stops, Encounter f s.visit.1 s.exchanges s.failure) {last : String}
    (hle : ∀ s ∈ stops, s.visit.1 ≤ last) {v : Visit}
    (hv : v ∈ t.visits.liveAfter (some last) least) :
    ∃ score, (v.1, score) ∈
      (t.run (stops.flatMap (·.exchanges))).visits.liveAfter (some last) least := by
  obtain ⟨hmem, hbehind, hlive⟩ := VisitTable.mem_liveAfter_iff.1 hv
  have hlt : last < v.1 := hbehind last rfl
  have hkept : ∀ s ∈ stops, s.visit.1 = v.1 → ¬ Expels f s.visit.1 s.exchanges := by
    intro s hs heq
    exact absurd (hle s hs) (String.not_le.2 (heq ▸ hlt))
  have hscore := Tables.scoreOf?_run (VisitTable.scoreOf?_eq_some_iff.2 hmem)
    (leaves_of_stops hf hstops hkept)
  have hraised := le_foldl_max v.2 ((stops.flatMap (·.exchanges)).filterMap (givenTo? v.1))
  exact ⟨_, VisitTable.mem_liveAfter_iff.2
    ⟨VisitTable.scoreOf?_eq_some_iff.1 hscore, hbehind, Int.le_trans hlive hraised⟩⟩

/-- A tour visits every live member behind its start, or it did not come as far. Members may be
added and scores raised before, on and behind every page. -/
theorem Tour.visits_live (hf : AsksOnly f TakesNone)
    (h : Tour q least f pages after exchanges stops ending) (hsize : 0 < q.pageSize)
    (hpermits : t.Permits exchanges) {v : Visit} (hv : v ∈ t.visits.liveAfter after least) :
    (∃ s ∈ stops, s.visit.1 = v.1) ∨ ending ≠ .whole ∧ ∀ s ∈ stops, s.visit.1 < v.1 := by
  induction h generalizing t v with
  | cutOff | unread => exact .inr ⟨nofun, by simp⟩
  | @last pages after stops _ hlast =>
    obtain ⟨hpage, -⟩ := page_of_permits hpermits
    have hall : stops.map (·.visit) = t.visits.liveAfter after least := by
      have hlength := congrArg List.length hpage
      rw [List.length_map, List.length_take] at hlength
      rw [hpage]
      refine List.take_of_length_le ?_
      obtain hshort | rfl := hlast
      · omega
      · rw [List.length_nil] at hlength
        omega
    obtain ⟨s, hs, rfl⟩ := List.mem_map.1 (hall ▸ hv)
    exact .inl ⟨s, hs, rfl⟩
  | @more pages after stops later last rest ending hstops hfull hlast _ ih =>
    obtain ⟨hpage, hpermits⟩ := page_of_permits hpermits
    obtain ⟨-, hpermitsRest⟩ := Tables.permits_append_iff.1 hpermits
    have hle : ∀ s ∈ stops, s.visit.1 ≤ last.visit.1 := fun s hs => le_last_of_page hpage hlast hs
    have hlastVisit :
        (t.visits.membersAfter after least q.pageSize).getLast? = some last.visit := by
      rw [VisitTable.membersAfter_eq, ← hpage, List.getLast?_map, hlast]
      rfl
    rw [← List.take_append_drop q.pageSize (t.visits.liveAfter after least), ← hpage] at hv
    obtain hv | hv := List.mem_append.1 hv
    · obtain ⟨s, hs, rfl⟩ := List.mem_map.1 hv
      exact .inl ⟨s, List.mem_append_left _ hs, rfl⟩
    · rw [← VisitTable.liveAfter_of_getLast? hlastVisit] at hv
      have hlt : last.visit.1 < v.1 := (VisitTable.mem_liveAfter_iff.1 hv).2.1 _ rfl
      obtain ⟨score, hlater⟩ := exists_live_after_stops hf hstops hle hv
      obtain ⟨s, hs, heq⟩ | ⟨hbroken, hbefore⟩ := ih hpermitsRest hlater
      · exact .inl ⟨s, List.mem_append_right _ hs, heq⟩
      · refine .inr ⟨hbroken, List.forall_mem_append.2 ⟨fun s hs => ?_, hbefore⟩⟩
        exact Std.lt_of_le_of_lt (hle s hs) hlt

/-- A member is visited after a page on which it stood, live. -/
theorem Tour.read_live (h : Tour q least f pages after exchanges stops ending)
    (hpermits : t.Permits exchanges) {s : Stop} (hs : s ∈ stops) :
    ∃ before after page rest, exchanges = before ++ q.reading least after (.ok page) :: rest ∧
      s.exchanges <:+: rest ∧ s.visit ∈ page ∧ least ≤ s.visit.2 ∧
      s.visit ∈ (t.run before).visits.visits := by
  have hpiece {stops : List Stop} (hs : s ∈ stops) :
      s.exchanges <:+: stops.flatMap (·.exchanges) :=
    List.infix_of_mem_flatten (List.mem_map_of_mem hs)
  induction h generalizing t with
  | cutOff | unread => cases hs
  | last =>
    obtain ⟨hpage, -⟩ := page_of_permits hpermits
    obtain ⟨hmem, -, hleast⟩ := live_of_page hpage hs
    exact ⟨[], _, _, _, rfl, hpiece hs, List.mem_map_of_mem hs, hleast, hmem⟩
  | @more _ after stops _ _ _ _ _ _ _ _ ih =>
    obtain ⟨hpage, hpermits⟩ := page_of_permits hpermits
    obtain ⟨-, hpermitsRest⟩ := Tables.permits_append_iff.1 hpermits
    obtain hs | hs := List.mem_append.1 hs
    · obtain ⟨hmem, -, hleast⟩ := live_of_page hpage hs
      exact ⟨[], _, _, _, rfl, (hpiece hs).trans (List.prefix_append _ _).isInfix,
        List.mem_map_of_mem hs, hleast, hmem⟩
    · obtain ⟨before, after', page, rest', rfl, hstop, hmem, hleast, hheld⟩ :=
        ih hpermitsRest hs
      refine ⟨q.reading least after (.ok (stops.map (·.visit))) ::
        (stops.flatMap (·.exchanges) ++ before), after', page, rest', ?_, hstop, hmem, hleast, ?_⟩
      · exact congrArg (_ :: ·) (List.append_assoc _ _ _).symm
      · rw [Tables.run_cons, Tables.run_append]
        exact hheld

/-- A page that cannot be read is the last thing of a tour. -/
theorem Tour.unread_last {e : TableFailure}
    (h : Tour q least f pages after exchanges stops (.unread e)) :
    ∃ before after, exchanges = before ++ [q.reading least after (.error e)] := by
  generalize hending : TourEnd.unread e = ending at h
  induction h with
  | cutOff | last => cases hending
  | unread =>
    cases hending
    exact ⟨[], _, rfl⟩
  | @more _ after stops _ _ _ _ _ _ _ _ ih =>
    obtain ⟨before, after', rfl⟩ := ih hending
    refine ⟨q.reading least after (.ok (stops.map (·.visit))) ::
      (stops.flatMap (·.exchanges) ++ before), after', ?_⟩
    exact congrArg (_ :: ·) (List.append_assoc _ _ _).symm

/-- A tour that is cut off has visited at least one member for each page that it might read. -/
theorem Tour.pages_le (h : Tour q least f pages after exchanges stops .cutOff)
    (hsize : 0 < q.pageSize) : pages ≤ stops.length := by
  generalize hending : TourEnd.cutOff = ending at h
  induction h with
  | cutOff => exact Nat.zero_le _
  | unread | last => cases hending
  | more _ hfull _ _ ih =>
    have hrest := ih hending
    rw [List.length_append]
    omega

/-- A tour visits no more members than there are and than are added. -/
theorem Tour.length_le (h : Tour q least f pages after exchanges stops ending)
    (hpermits : t.Permits exchanges) {added : List String}
    (hadded : ∀ x ∈ exchanges, ∀ member score, x.1 = .upsertVisit member score → member ∈ added) :
    stops.length ≤ t.visits.size + added.length := by
  have hnodup : ((stops.map (·.visit)).map (·.1)).Nodup := (h.ascending hpermits).1.nodup
  have hsub : (stops.map (·.visit)).map (·.1) ⊆ t.visits.visits.map (·.1) ++ added := by
    intro member hmember
    obtain ⟨v, hv, rfl⟩ := List.mem_map.1 hmember
    obtain ⟨s, hs, rfl⟩ := List.mem_map.1 hv
    obtain ⟨before, after', page, rest, rfl, -, -, -, hheld⟩ := h.read_live hpermits hs
    obtain ⟨w, hw, hname⟩ | ⟨x, hx, given, hadds⟩ := Tables.mem_visits_run hheld
    · exact List.mem_append_left _ (hname ▸ List.mem_map_of_mem hw)
    · exact List.mem_append_right _ (hadded x (List.mem_append_left _ hx) _ _ hadds)
  have hlength := (hnodup.subperm hsub).length_le
  rw [List.length_append, List.length_map, List.length_map, List.length_map] at hlength
  exact hlength

/-- A pass on which every member has its turn once. -/
structure VisitsEachOnce (q : VisitQueue) (least : Int) (f : Inquiry → Crawl Unit) (pages : Nat)
    (t : Tables) (exchanges : List (Exchange surroundings)) (stops : List Stop) (ending : TourEnd) :
    Prop where
  /-- A stop is the visit of its member, and fails as that does. -/
  encounters : ∀ s ∈ stops, Encounter f s.visit.1 s.exchanges s.failure
  /-- The members are visited in ascending order, and so none of them twice. -/
  ascending : Ascending (stops.map (·.visit))
  /-- A member is visited after a page on which it stood, with a score that was high enough when the
  page was read. -/
  live : ∀ s ∈ stops, ∃ before after page rest,
    exchanges = before ++ q.reading least after (.ok page) :: rest ∧ s.exchanges <:+: rest ∧
      s.visit ∈ page ∧ least ≤ s.visit.2 ∧ s.visit ∈ (t.run before).visits.visits
  /-- Each member that was live at the beginning is visited; if the pass did not come to its end,
  those that it has not visited come after all that it has. -/
  reached : ∀ v ∈ t.visits.visits, least ≤ v.2 →
    (∃ s ∈ stops, s.visit.1 = v.1) ∨ ending ≠ .whole ∧ ∀ s ∈ stops, s.visit.1 < v.1
  /-- Only a page that cannot be read keeps a pass from its end, and it is the last that is asked
  for. -/
  unread : ∀ e, ending = .unread e →
    ∃ before after, exchanges = before ++ [q.reading least after (.error e)]
  /-- A pass comes to its end within as many pages as there are members, and one more, if those are
  counted that are added. -/
  terminates : ∀ added : List String,
    (∀ x ∈ exchanges, ∀ member score, x.1 = .upsertVisit member score → member ∈ added) →
    t.visits.size + added.length < pages → ending ≠ .cutOff
  /-- A member whose visit did not tell that no pass can serve it is there afterwards, with its
  score or, if that is higher, the highest that it was given at the stops. -/
  kept : ∀ member score, t.visits.scoreOf? member = some score →
    (∃ s ∈ stops, s.visit.1 = member ∧ Expels f member s.exchanges) ∨
      (t.run exchanges).visits.scoreOf? member =
        some (((stops.flatMap (·.exchanges)).filterMap (givenTo? member)).foldl max score)

theorem Tour.visitsEachOnce (hf : AsksOnly f TakesNone)
    (h : Tour q least f pages none exchanges stops ending) (hsize : 0 < q.pageSize)
    (hpermits : t.Permits exchanges) :
    VisitsEachOnce q least f pages t exchanges stops ending := by
  refine ⟨h.encounters, (h.ascending hpermits).1, fun s hs => h.read_live hpermits hs, ?_, ?_, ?_,
    ?_⟩
  · intro v hv hlive
    exact h.visits_live hf hsize hpermits (VisitTable.mem_liveAfter_iff.2 ⟨hv, nofun, hlive⟩)
  · rintro e rfl
    exact h.unread_last
  · rintro added hadded hpages rfl
    have hleast := h.pages_le hsize
    have hmost := h.length_le hpermits hadded
    omega
  · intro member score hscore
    by_cases hkept : ∃ s ∈ stops, s.visit.1 = member ∧ Expels f member s.exchanges
    · exact .inl hkept
    · refine .inr (h.scoreOf?_run hf hscore fun s hs heq hexpels => hkept ⟨s, hs, heq, ?_⟩)
      rwa [← heq]

/-- A pass ends if only so many members are added meanwhile. It visits the members in ascending
order, every member that was live when it began, and none that was not live when its page was read;
and it loses no member but those that no pass can serve. No premise on the table, the clock or the
failures is needed, and none on what is done with the members but that it takes none of them away:
it may add others, in front of the pass and behind it. Some pass there always is. -/
theorem each_member_visited_once (pageSize : UInt32) (retentionSecs : UInt64) (now : Time.Instant)
    (pages : Nat) (hf : AsksOnly f TakesNone) (t : Tables) :
    (∃ exchanges report, ((VisitQueue.of pageSize retentionSecs).pass pages now f).Ends exchanges
      report ∧ t.Permits exchanges) ∧
    ∀ exchanges report,
      ((VisitQueue.of pageSize retentionSecs).pass pages now f).Ends exchanges report →
      t.Permits exchanges →
      ∃ stops ending,
        Tour (.of pageSize retentionSecs) (oldestKept now retentionSecs.toNat) f pages none
          exchanges stops ending ∧
        report = ending.report stops ∧
        VisitsEachOnce (.of pageSize retentionSecs) (oldestKept now retentionSecs.toNat) f pages t
          exchanges stops ending := by
  constructor
  · obtain ⟨exchanges, report, hends, hpermits, -⟩ := @Work.exists_permitted _ (fun _ => True)
      (fun t r => (t.exists_allowed r).imp fun _ hallows => ⟨hallows, trivial⟩)
      ((VisitQueue.of pageSize retentionSecs).pass pages now f) t
    exact ⟨exchanges, report, hends, hpermits⟩
  · intro exchanges report hends hpermits
    obtain ⟨stops, ending, htour, hreport⟩ := (ends_passFrom_iff.1 hends).exists_tour
    exact ⟨stops, ending, htour, hreport,
      htour.visitsEachOnce hf (Nat.le_max_right _ _) hpermits⟩

def earlyInquiry : Inquiry :=
  .of "0xa" .ethereum

def lateInquiry : Inquiry :=
  .of "0xb" .ethereum

def oneVisit : Tables where
  visits := ⟨[(earlyInquiry.member, 0)], List.pairwise_singleton _ _⟩

/-- A member that is added behind the page on which the pass stands is visited on the next one. -/
theorem each_member_visited_once_sample :
    AsksOnly (fun _ => touchAt lateInquiry .epoch) TakesNone ∧
      ∃ (exchanges : List (Exchange surroundings)) (stops : List Stop) (ending : TourEnd),
        ((VisitQueue.of 0 10).pass 3 .epoch fun _ => touchAt lateInquiry .epoch).Ends exchanges
          (some ⟨2, []⟩) ∧
        oneVisit.Permits exchanges ∧ some ⟨2, []⟩ = ending.report stops ∧
        VisitsEachOnce (.of 0 10) (-10) (fun _ => touchAt lateInquiry .epoch) 3 oneVisit exchanges
          stops ending := by
  let adding : Exchange surroundings := ⟨.upsertVisit lateInquiry.member 0, .ok ()⟩
  let q : VisitQueue := .of 0 10
  let exchanges : List (Exchange surroundings) :=
    [q.reading (-10) none (.ok [(earlyInquiry.member, 0)]), adding,
      q.reading (-10) (some earlyInquiry.member) (.ok [(lateInquiry.member, 0)]), adding,
      q.reading (-10) (some lateInquiry.member) (.ok [])]
  have hf : AsksOnly (fun _ => touchAt lateInquiry .epoch) TakesNone := by
    intro p exchanges result hends
    obtain ⟨answer, hcall, -⟩ := Work.ends_fromTable_iff.1 hends
    obtain rfl := Work.ends_call_iff.1 hcall
    exact List.forall_mem_singleton.2 fun _ => trivial
  have hserving : (touchAt lateInquiry .epoch).run.Ends [adding] (.ok ()) :=
    Work.ends_fromTable_iff.2 ⟨.ok (), Work.ends_call_iff.2 rfl, rfl⟩
  have hencounter (p : Inquiry) :
      Encounter (fun _ => touchAt lateInquiry .epoch) p.member [adding] none :=
    .served p.ofMember_member hserving
  have hround (p : Inquiry) :
      Round (fun _ => touchAt lateInquiry .epoch) [(p.member, 0)] [adding] [] :=
    @Round.cons _ (p.member, 0) _ _ _ none _ (hencounter p) .nil
  have hthird : Course q (-10) (fun _ => touchAt lateInquiry .epoch) 1 (some lateInquiry.member)
      (exchanges.drop 4) (some ⟨0, []⟩) :=
    .last .nil (.inr rfl)
  have hsecond : Course q (-10) (fun _ => touchAt lateInquiry .epoch) 2 (some earlyInquiry.member)
      (exchanges.drop 2) (some ⟨1, []⟩) :=
    .more (hround lateInquiry) (Nat.le_refl _) rfl hthird
  have hcourse : Course q (-10) (fun _ => touchAt lateInquiry .epoch) 3 none exchanges
      (some ⟨2, []⟩) :=
    .more (hround earlyInquiry) (Nat.le_refl _) rfl hsecond
  have hends : (q.pass 3 .epoch fun _ => touchAt lateInquiry .epoch).Ends exchanges
      (some ⟨2, []⟩) :=
    ends_passFrom_iff.2 hcourse
  have hpermits : oneVisit.Permits exchanges := by
    refine ⟨?_, trivial, ?_, trivial, ?_, trivial⟩
    · change _ = VisitTable.membersAfter _ _ _ _
      decide +kernel
    · change _ = VisitTable.membersAfter _ _ _ _
      decide +kernel
    · change _ = VisitTable.membersAfter _ _ _ _
      decide +kernel
  obtain ⟨-, hpass⟩ := each_member_visited_once 0 10 .epoch 3 hf oneVisit
  obtain ⟨stops, ending, -, hreport, honce⟩ := hpass exchanges _ hends hpermits
  exact ⟨hf, exchanges, stops, ending, hends, hpermits, hreport, honce⟩

end VisitQueue

end ChainCrawl
