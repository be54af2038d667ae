import ChainCrawl.Proofs.Visit.Pass

namespace ChainCrawl

open Proc

/-- The exchange is a page of visits that could not be read. -/
def FailsToRead : Exchange surroundings → Prop
  | ⟨.visitsAfter _ _ _, .error _⟩ => True
  | _ => False

namespace VisitQueue

/-- What is done with each member makes only requests of a kind. -/
def AsksOnly (f : Inquiry → Crawl Unit) (holds : WorkRequest → Prop) : Prop :=
  ∀ (p : Inquiry) (exchanges : List (Exchange surroundings)) (result : Fallible Unit),
    (f p).run.Ends exchanges result → ∀ x ∈ exchanges, holds x.1

/-- What is done with each member has nothing to do with the visits. -/
abbrev Spares (f : Inquiry → Crawl Unit) : Prop :=
  AsksOnly f SparesVisits

variable {f : Inquiry → Crawl Unit} {exchanges : List (Exchange surroundings)} {t : Tables}

theorem Removing.run_eq {member : String} (h : Removing member exchanges) (t : Tables) :
    t.run exchanges = t ∨ t.run exchanges = { t with visits := (t.visits.erase member).2 } := by
  cases h with
  | done removed => exact .inr rfl
  | failed e => exact .inl rfl

theorem Encounter.visits_run (hf : Spares f) {member : String} {failure : Option PassFailure}
    (h : Encounter f member exchanges failure) (t : Tables) :
    (t.run exchanges).visits = t.visits ∨
      (t.run exchanges).visits = (t.visits.erase member).2 := by
  cases h with
  | unread hread hremoving =>
    obtain heq | heq := hremoving.run_eq t <;> rw [heq]
    · exact .inl rfl
    · exact .inr rfl
  | served hread hserving => exact .inl (Tables.visits_run (hf _ _ _ hserving))
  | failed hread hserving => exact .inl (Tables.visits_run (hf _ _ _ hserving))
  | @refused p e serving removing hread hserving hpermanent hremoving =>
    have hvisits : (t.run serving).visits = t.visits := Tables.visits_run (hf _ _ _ hserving)
    rw [Tables.run_append]
    obtain heq | heq := hremoving.run_eq (t.run serving) <;> rw [heq]
    · exact .inl hvisits
    · exact .inr (by rw [hvisits])

/-- Behind the last member of a page nothing changes while the page is gone through. -/
theorem Round.liveAfter_run (hf : Spares f) {page : List Visit} {failures : List PassFailure}
    (h : Round f page exchanges failures) {last : String} (hlast : ∀ v ∈ page, v.1 ≤ last)
    (t : Tables) (least : Int) :
    (t.run exchanges).visits.liveAfter (some last) least =
      t.visits.liveAfter (some last) least := by
  induction h generalizing t with
  | nil => rfl
  | @cons v rest first more failure failures hfirst hrest ih =>
    rw [Tables.run_append, ih (fun w hw => hlast w (List.mem_cons_of_mem _ hw))]
    obtain heq | heq := hfirst.visits_run hf t <;> rw [heq]
    exact VisitTable.liveAfter_erase least (hlast v List.mem_cons_self)

theorem Round.append {page more : List Visit} {first rest : List (Exchange surroundings)}
    {failures later : List PassFailure} (hfirst : Round f page first failures)
    (hrest : Round f more rest later) :
    Round f (page ++ more) (first ++ rest) (failures ++ later) := by
  induction hfirst with
  | nil => exact hrest
  | cons hvisit _ ih =>
    rw [List.append_assoc, List.append_assoc]
    exact .cons hvisit ih

/-- A pass whose pages can all be read, and that may read enough of them, is a round over the live
members behind its start. Beside the pages there are no exchanges but those of the round. -/
theorem Course.exists_round (hf : Spares f) {q : VisitQueue} {least : Int} {pages : Nat}
    {after : Option String} {report : Option PassReport}
    (h : Course q least f pages after exchanges report) (hsize : 0 < q.pageSize)
    (hread : ∀ x ∈ exchanges, ¬ FailsToRead x) (hpermits : t.Permits exchanges)
    (hpages : (t.visits.liveAfter after least).length < pages) :
    ∃ round failures, Round f (t.visits.liveAfter after least) round failures ∧
      report = some ⟨(t.visits.liveAfter after least).length, failures⟩ ∧
      round.Sublist exchanges ∧ t.run exchanges = t.run round := by
  induction h generalizing t with
  | cutOff => exact absurd hpages (Nat.not_lt_zero _)
  | unread e => exact absurd trivial (hread _ List.mem_cons_self)
  | @last pages after page round failures hround hlast =>
    obtain rfl : page = (t.visits.liveAfter after least).take q.pageSize := hpermits.1
    have hall : (t.visits.liveAfter after least).take q.pageSize =
        t.visits.liveAfter after least := by
      obtain hshort | hnil := hlast
      · rw [List.length_take] at hshort
        exact List.take_of_length_le (by omega)
      · obtain hzero | hempty := List.take_eq_nil_iff.1 hnil
        · omega
        · rw [hempty, List.take_nil]
    rw [hall] at hround ⊢
    exact ⟨round, failures, hround, rfl, List.sublist_cons_self _ _, rfl⟩
  | @more pages after page v round rest failures report hround hfull hlast hrest ih =>
    obtain ⟨hpage, hpermits⟩ := hpermits
    obtain ⟨-, hpermitsRest⟩ := Tables.permits_append_iff.1 hpermits
    obtain rfl : page = t.visits.membersAfter after least q.pageSize := hpage
    have hascending : Ascending (t.visits.membersAfter after least q.pageSize) :=
      (t.visits.ascending_liveAfter after least).take
    have hleft : (t.run round).visits.liveAfter (some v.1) least =
        (t.visits.liveAfter after least).drop q.pageSize := by
      rw [hround.liveAfter_run hf (hascending.le_of_getLast? hlast),
        VisitTable.liveAfter_of_getLast? hlast]
    rw [VisitTable.membersAfter_eq, List.length_take] at hfull
    obtain ⟨round', failures', hround', rfl, hsublist, hrun⟩ := ih (t := t.run round)
      (fun x hx => hread x (List.mem_cons_of_mem _ (List.mem_append_right _ hx))) hpermitsRest
      (by rw [hleft, List.length_drop]; omega)
    rw [hleft] at hround' ⊢
    have hwhole := hround.append hround'
    rw [VisitTable.membersAfter_eq, List.take_append_drop] at hwhole
    refine ⟨round ++ round', failures ++ failures', hwhole, ?_,
      (hsublist.append_left round).cons _, ?_⟩
    · have hlength : (t.visits.membersAfter after least q.pageSize).length +
          ((t.visits.liveAfter after least).drop q.pageSize).length =
            (t.visits.liveAfter after least).length := by
        rw [VisitTable.membersAfter_eq, ← List.length_append, List.take_append_drop]
      rw [Option.map_some, PassReport.append, hlength]
    · change t.run (round ++ rest) = _
      rw [Tables.run_append, Tables.run_append, hrun]

end VisitQueue

/-- The tables without the visits scored below a bound. -/
def Tables.aged (t : Tables) (least : Int) : Tables :=
  { t with visits := (t.visits.dropBelow least).2 }

namespace Tables

variable {t : Tables} {exchanges : List (Exchange surroundings)}

/-- Where no visit is added, it makes no difference when the old ones are dropped. -/
theorem aged_after {e : Exchange surroundings} (h : ∀ member score, e.1 ≠ .upsertVisit member score)
    (t : Tables) (least : Int) : (t.aged least).after e = (t.after e).aged least := by
  obtain ⟨r, answer⟩ := e
  cases r with
  | upsertVisit member score => exact absurd rfl (h member score)
  | dropVisitsBelow other =>
    cases answer with
    | ok n => simp only [after, aged, VisitTable.dropBelow_dropBelow]
    | error e => rfl
  | removeVisit member =>
    cases answer with
    | ok removed => simp only [after, aged, VisitTable.erase_dropBelow]
    | error e => rfl
  | saveCursor | addRecords => cases answer <;> rfl
  | _ => rfl

theorem aged_run (h : ∀ e ∈ exchanges, ∀ member score, e.1 ≠ .upsertVisit member score)
    (t : Tables) (least : Int) : (t.aged least).run exchanges = (t.run exchanges).aged least := by
  induction exchanges generalizing t with
  | nil => rfl
  | cons e rest ih =>
    rw [run_cons, run_cons, aged_after (h e List.mem_cons_self),
      ih fun x hx => h x (List.mem_cons_of_mem _ hx)]

theorem permits_aged_iff_of_spares (h : ∀ e ∈ exchanges, SparesVisits e.1) (least : Int) :
    (t.aged least).Permits exchanges ↔ t.Permits exchanges := by
  induction exchanges generalizing t with
  | nil => exact Iff.rfl
  | cons e rest ih =>
    have he := h e List.mem_cons_self
    refine and_congr ?_ ?_
    · obtain ⟨r, answer⟩ := e
      cases r with
      | visitsAfter | dropVisitsBelow | removeVisit | visitScore | visitCount => exact he.elim
      | loadCursor => cases answer <;> exact Iff.rfl
      | _ => exact Iff.rfl
    · rw [aged_after]
      · exact ih fun x hx => h x (List.mem_cons_of_mem _ hx)
      · intro member score heq
        rw [heq] at he
        exact he

end Tables

namespace VisitQueue

variable {f : Inquiry → Crawl Unit} {exchanges : List (Exchange surroundings)} {t : Tables}

/-- A pass makes no requests of its own but these: it reads pages, removes members and reports. -/
def IsPassing : WorkRequest → Prop
  | .visitsAfter _ _ _ | .removeVisit _ | .log _ => True
  | _ => False

section Requests

variable {holds : WorkRequest → Prop} (hf : AsksOnly f holds)
  (hpassing : ∀ r, IsPassing r → holds r)
include hpassing

theorem Removing.requests {member : String} (h : Removing member exchanges) :
    ∀ x ∈ exchanges, holds x.1 := by
  cases h with
  | done removed => simpa using hpassing (.removeVisit member) trivial
  | failed e => simpa using ⟨hpassing (.removeVisit member) trivial, hpassing (.log _) trivial⟩

include hf

theorem Encounter.requests {member : String} {failure : Option PassFailure}
    (h : Encounter f member exchanges failure) : ∀ x ∈ exchanges, holds x.1 := by
  cases h with
  | unread hread hremoving => exact hremoving.requests hpassing
  | served hread hserving | failed hread hserving => exact hf _ _ _ hserving
  | refused hread hserving hpermanent hremoving =>
    intro x hx
    obtain hx | hx := List.mem_append.1 hx
    · exact hf _ _ _ hserving x hx
    · exact hremoving.requests hpassing x hx

theorem Round.requests {page : List Visit} {failures : List PassFailure}
    (h : Round f page exchanges failures) : ∀ x ∈ exchanges, holds x.1 := by
  induction h with
  | nil => simp
  | cons hfirst hrest ih =>
    intro x hx
    obtain hx | hx := List.mem_append.1 hx
    · exact hfirst.requests hf hpassing x hx
    · exact ih x hx

/-- What holds of the requests by which members are served, and of those that a pass makes of its
own, holds of all requests of a pass. -/
theorem Course.requests {q : VisitQueue} {least : Int} {pages : Nat} {after : Option String}
    {report : Option PassReport} (h : Course q least f pages after exchanges report) :
    ∀ x ∈ exchanges, holds x.1 := by
  induction h with
  | cutOff => simp
  | unread => simpa [reading] using hpassing (.visitsAfter _ _ _) trivial
  | last hround =>
    intro x hx
    obtain rfl | hx := List.mem_cons.1 hx
    · exact hpassing _ trivial
    · exact hround.requests hf hpassing x hx
  | more hround _ _ hrest ih =>
    intro x hx
    obtain rfl | hx := List.mem_cons.1 hx
    · exact hpassing _ trivial
    · obtain hx | hx := List.mem_append.1 hx
      · exact hround.requests hf hpassing x hx
      · exact ih x hx

end Requests

/-- The request adds no visit. -/
def AddsNone (r : WorkRequest) : Prop :=
  ∀ member score, r ≠ .upsertVisit member score

theorem addsNone_of_isPassing (r : WorkRequest) (h : IsPassing r) : AddsNone r := by
  rintro member score rfl
  exact h

theorem addsNone_of_sparesVisits {r : WorkRequest} (h : SparesVisits r) : AddsNone r := by
  rintro member score rfl
  exact h

theorem Spares.addsNone (hf : Spares f) : AsksOnly f AddsNone :=
  fun _ _ _ hends x hx => addsNone_of_sparesVisits (hf _ _ _ hends x hx)

theorem Removing.permits_aged_iff {v : Visit} (h : Removing v.1 exchanges) {least : Int}
    (hv : v ∈ t.visits.visits) (hlive : least ≤ v.2) :
    (t.aged least).Permits exchanges ↔ t.Permits exchanges := by
  cases h with
  | failed e => exact Iff.rfl
  | done removed =>
    have hscore : t.visits.scoreOf? v.1 = some v.2 := VisitTable.scoreOf?_eq_some_iff.2 hv
    have haged : (t.aged least).visits.scoreOf? v.1 = some v.2 := by
      rw [Tables.aged, VisitTable.scoreOf?_dropBelow, hscore]
      simp [hlive]
    simp [Tables.Permits, Tables.Allows, VisitTable.erase, hscore, haged]

theorem Encounter.permits_aged_iff (hf : Spares f) {v : Visit} {failure : Option PassFailure}
    (h : Encounter f v.1 exchanges failure) {least : Int} (hv : v ∈ t.visits.visits)
    (hlive : least ≤ v.2) : (t.aged least).Permits exchanges ↔ t.Permits exchanges := by
  cases h with
  | unread hread hremoving => exact hremoving.permits_aged_iff hv hlive
  | served hread hserving | failed hread hserving =>
    exact Tables.permits_aged_iff_of_spares (hf _ _ _ hserving) least
  | @refused p e serving removing hread hserving hpermanent hremoving =>
    have hspares := hf _ _ _ hserving
    rw [Tables.permits_append_iff, Tables.permits_append_iff,
      Tables.aged_run fun x hx => addsNone_of_sparesVisits (hspares x hx)]
    refine and_congr (Tables.permits_aged_iff_of_spares hspares least)
      (hremoving.permits_aged_iff ?_ hlive)
    rwa [Tables.visits_run hspares]

theorem Round.permits_aged_iff (hf : Spares f) {page : List Visit} {failures : List PassFailure}
    (h : Round f page exchanges failures) {least : Int} (hascending : Ascending page)
    (hpage : ∀ v ∈ page, v ∈ t.visits.visits ∧ least ≤ v.2) :
    (t.aged least).Permits exchanges ↔ t.Permits exchanges := by
  induction h generalizing t with
  | nil => exact Iff.rfl
  | @cons v rest first more failure failures hfirst hrest ih =>
    obtain ⟨hv, hlive⟩ := hpage v List.mem_cons_self
    obtain ⟨hbefore, hascending⟩ := List.pairwise_cons.1 hascending
    rw [Tables.permits_append_iff, Tables.permits_append_iff,
      Tables.aged_run (hfirst.requests (Spares.addsNone hf) addsNone_of_isPassing)]
    refine and_congr (hfirst.permits_aged_iff hf hv hlive) (ih hascending fun w hw => ?_)
    obtain ⟨hmem, hw'⟩ := hpage w (List.mem_cons_of_mem _ hw)
    refine ⟨?_, hw'⟩
    obtain heq | heq := hfirst.visits_run hf t <;> rw [heq]
    · exact hmem
    · have hne : w.1 ≠ v.1 := fun hname => String.lt_irrefl _ (hname ▸ hbefore w hw)
      simpa [VisitTable.erase, VisitTable.filter, hne] using hmem

theorem allows_aged_reading_iff {q : VisitQueue} {least : Int} {after : Option String}
    {page : List Visit} :
    (t.aged least).Allows (q.reading least after (.ok page)) ↔
      t.Allows (q.reading least after (.ok page)) := by
  change page = (t.visits.dropBelow least).2.membersAfter after least q.pageSize ↔ _
  rw [VisitTable.membersAfter_dropBelow]
  exact Iff.rfl

theorem mem_of_allows_reading {q : VisitQueue} {least : Int} {after : Option String}
    {page : List Visit} (h : t.Allows (q.reading least after (.ok page))) :
    Ascending page ∧ ∀ v ∈ page, v ∈ t.visits.visits ∧ least ≤ v.2 := by
  obtain rfl : page = (t.visits.liveAfter after least).take q.pageSize := h
  refine ⟨(t.visits.ascending_liveAfter after least).take, fun v hv => ?_⟩
  obtain ⟨hmem, -, hlive⟩ := VisitTable.mem_liveAfter_iff.1 (List.mem_of_mem_take hv)
  exact ⟨hmem, hlive⟩

/-- A pass can go exactly the ways that it can go where the old visits have been dropped before. -/
theorem Course.permits_aged_iff (hf : Spares f) {q : VisitQueue} {least : Int} {pages : Nat}
    {after : Option String} {report : Option PassReport}
    (h : Course q least f pages after exchanges report) :
    (t.aged least).Permits exchanges ↔ t.Permits exchanges := by
  induction h generalizing t with
  | cutOff => exact Iff.rfl
  | unread e => exact Iff.rfl
  | last hround =>
    refine (and_congr_left' allows_aged_reading_iff).trans (and_congr_right fun hpage => ?_)
    obtain ⟨hascending, hlive⟩ := mem_of_allows_reading hpage
    exact hround.permits_aged_iff hf hascending hlive
  | @more pages after page v round rest failures report hround _ _ hrest ih =>
    refine (and_congr_left' allows_aged_reading_iff).trans (and_congr_right fun hpage => ?_)
    obtain ⟨hascending, hlive⟩ := mem_of_allows_reading hpage
    change (t.aged least).Permits (round ++ rest) ↔ t.Permits (round ++ rest)
    rw [Tables.permits_append_iff, Tables.permits_append_iff,
      Tables.aged_run (hround.requests (Spares.addsNone hf) addsNone_of_isPassing)]
    exact and_congr (hround.permits_aged_iff hf hascending hlive) ih

end VisitQueue

end ChainCrawl
