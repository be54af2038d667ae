import ChainCrawl.Proofs.Inquiry.Member
import ChainCrawl.Proofs.Table.Visit
import ChainCrawl.Proofs.Work.Tables
import ChainCrawl.Visit.Queue

namespace ChainCrawl

namespace VisitQueue

open Proc

/-- The exchanges by which a member is removed; that it could not be is only reported. -/
inductive Removing (member : String) : List (Exchange surroundings) → Prop where
  | done (removed : Bool) : Removing member [⟨.removeVisit member, .ok removed⟩]
  | failed (e : TableFailure) :
      Removing member [⟨.removeVisit member, .error e⟩,
        ⟨.log ⟨.warn, "Failed to remove recrawl member", [("member", member), ("error", e.text)]⟩,
          ()⟩]

/-- How the visit of a member goes. -/
inductive Encounter (f : Inquiry → Crawl Unit) (member : String) :
    List (Exchange surroundings) → Option PassFailure → Prop where
  /-- The member is no inquiry, and is removed. -/
  | unread {e : Failure} {removing : List (Exchange surroundings)}
      (hread : Inquiry.ofMember member = .error e) (hremoving : Removing member removing) :
      Encounter f member removing (some (.member member e))
  | served {p : Inquiry} {serving : List (Exchange surroundings)}
      (hread : Inquiry.ofMember member = .ok p) (hserving : (f p).run.Ends serving (.ok ())) :
      Encounter f member serving none
  /-- A later pass may serve the member. -/
  | failed {p : Inquiry} {e : Failure} {serving : List (Exchange surroundings)}
      (hread : Inquiry.ofMember member = .ok p) (hserving : (f p).run.Ends serving (.error e))
      (hpassing : isPermanent e = false) :
      Encounter f member serving (some (.member member e))
  /-- No pass can serve the member, and it is removed. -/
  | refused {p : Inquiry} {e : Failure} {serving removing : List (Exchange surroundings)}
      (hread : Inquiry.ofMember member = .ok p) (hserving : (f p).run.Ends serving (.error e))
      (hpermanent : isPermanent e = true) (hremoving : Removing member removing) :
      Encounter f member (serving ++ removing) (some (.member member e))

/-- How the members of a page are visited, one after the other. -/
inductive Round (f : Inquiry → Crawl Unit) :
    List Visit → List (Exchange surroundings) → List PassFailure → Prop where
  | nil : Round f [] [] []
  | cons {v : Visit} {rest : List Visit} {first more : List (Exchange surroundings)}
      {failure : Option PassFailure} {failures : List PassFailure}
      (hfirst : Encounter f v.1 first failure) (hrest : Round f rest more failures) :
      Round f (v :: rest) (first ++ more) (failure.toList ++ failures)

def reading (q : VisitQueue) (least : Int) (after : Option String)
    (answer : Except TableFailure (List Visit)) : Exchange surroundings :=
  ⟨.visitsAfter after least q.pageSize, answer⟩

/-- How a pass goes on behind a member. -/
inductive Course (q : VisitQueue) (least : Int) (f : Inquiry → Crawl Unit) :
    Nat → Option String → List (Exchange surroundings) → Option PassReport → Prop where
  | cutOff (after : Option String) : Course q least f 0 after [] none
  | unread {pages : Nat} {after : Option String} (e : TableFailure) :
      Course q least f (pages + 1) after [q.reading least after (.error e)]
        (some ⟨0, [.scan e.toFailure]⟩)
  /-- A page that is not full is the last one. -/
  | last {pages : Nat} {after : Option String} {page : List Visit}
      {round : List (Exchange surroundings)} {failures : List PassFailure}
      (hround : Round f page round failures) (hlast : page.length < q.pageSize ∨ page = []) :
      Course q least f (pages + 1) after (q.reading least after (.ok page) :: round)
        (some ⟨page.length, failures⟩)
  | more {pages : Nat} {after : Option String} {page : List Visit} {v : Visit}
      {round rest : List (Exchange surroundings)} {failures : List PassFailure}
      {report : Option PassReport} (hround : Round f page round failures)
      (hfull : q.pageSize ≤ page.length) (hlast : page.getLast? = some v)
      (hrest : Course q least f pages (some v.1) rest report) :
      Course q least f (pages + 1) after (q.reading least after (.ok page) :: (round ++ rest))
        (report.map (PassReport.append ⟨page.length, failures⟩))

variable {f : Inquiry → Crawl Unit} {exchanges : List (Exchange surroundings)}

theorem ends_dropMember_iff {member : String} {u : Unit} :
    (dropMember member).Ends exchanges u ↔ Removing member exchanges := by
  refine Iff.trans ends_bind_iff ?_
  constructor
  · rintro ⟨removed, first, rest, rfl, hfirst, hrest⟩
    obtain rfl := Work.ends_call_iff.1 hfirst
    cases removed with
    | ok removed =>
      obtain ⟨rfl, -⟩ := ends_done_iff.1 hrest
      exact .done removed
    | error e =>
      obtain rfl := Work.ends_report_iff.1 hrest
      exact .failed e
  · rintro (⟨removed⟩ | ⟨e⟩)
    · exact ⟨.ok removed, [_], [], rfl, Work.ends_call_iff.2 rfl, .nil _⟩
    · exact ⟨.error e, [_], [_], rfl, Work.ends_call_iff.2 rfl, Work.ends_report_iff.2 rfl⟩

theorem ends_visit_iff {member : String} {failure : Option PassFailure} :
    (visit f member).Ends exchanges failure ↔ Encounter f member exchanges failure := by
  constructor
  · intro h
    unfold visit at h
    cases hread : Inquiry.ofMember member with
    | error e =>
      rw [hread] at h
      obtain ⟨u, hremoving, rfl⟩ := ends_bind_done_iff.1 h
      exact .unread hread (ends_dropMember_iff.1 hremoving)
    | ok p =>
      rw [hread] at h
      obtain ⟨result, serving, rest, rfl, hserving, hrest⟩ := ends_bind_iff.1 h
      cases result with
      | ok u =>
        obtain ⟨rfl, rfl⟩ := ends_done_iff.1 hrest
        rw [List.append_nil]
        exact .served hread hserving
      | error e =>
        cases hpermanent : isPermanent e with
        | false =>
          simp only [hpermanent] at hrest
          obtain ⟨rfl, rfl⟩ := ends_done_iff.1 hrest
          rw [List.append_nil]
          exact .failed hread hserving hpermanent
        | true =>
          simp only [hpermanent] at hrest
          obtain ⟨u, hremoving, rfl⟩ := ends_bind_done_iff.1 hrest
          exact .refused hread hserving hpermanent (ends_dropMember_iff.1 hremoving)
  · intro h
    unfold visit
    cases h with
    | unread hread hremoving =>
      rw [hread]
      exact ends_bind_done_iff.2 ⟨(), ends_dropMember_iff.2 hremoving, rfl⟩
    | served hread hserving =>
      rw [hread]
      exact ends_bind_iff.2 ⟨.ok (), exchanges, [], (List.append_nil _).symm, hserving, .nil _⟩
    | failed hread hserving hpassing =>
      rw [hread]
      refine ends_bind_iff.2 ⟨.error _, exchanges, [], (List.append_nil _).symm, hserving, ?_⟩
      simp only [hpassing]
      exact .nil _
    | refused hread hserving hpermanent hremoving =>
      rw [hread]
      refine ends_bind_iff.2 ⟨.error _, _, _, rfl, hserving, ?_⟩
      simp only [hpermanent]
      exact ends_bind_done_iff.2 ⟨(), ends_dropMember_iff.2 hremoving, rfl⟩

theorem ends_visitAll_iff {page : List Visit} {failures : List PassFailure} :
    (visitAll f page).Ends exchanges failures ↔ Round f page exchanges failures := by
  induction page generalizing exchanges failures with
  | nil =>
    constructor
    · intro h
      obtain ⟨rfl, rfl⟩ := ends_done_iff.1 h
      exact .nil
    · rintro ⟨⟩
      exact .nil _
  | cons v rest ih =>
    refine Iff.trans ends_bind_iff ?_
    constructor
    · rintro ⟨failure, first, more, rfl, hfirst, hmore⟩
      obtain ⟨failures, hvisiting, rfl⟩ := ends_bind_done_iff.1 hmore
      exact .cons (ends_visit_iff.1 hfirst) (ih.1 hvisiting)
    · intro h
      cases h with
      | cons hfirst hrest =>
        exact ⟨_, _, _, rfl, ends_visit_iff.2 hfirst,
          ends_bind_done_iff.2 ⟨_, ih.2 hrest, rfl⟩⟩

/-- A pass reads a page, visits its members and goes on behind the last of them, until a page is not
full or cannot be read, or the pages that it may read are used up. -/
theorem ends_passFrom_iff {q : VisitQueue} {least : Int} {pages : Nat} {after : Option String}
    {report : Option PassReport} :
    (q.passFrom least f pages after).Ends exchanges report ↔
      Course q least f pages after exchanges report := by
  induction pages generalizing after exchanges report with
  | zero =>
    constructor
    · intro h
      obtain ⟨rfl, rfl⟩ := ends_done_iff.1 h
      exact .cutOff after
    · rintro ⟨⟩
      exact .nil _
  | succ pages ih =>
    refine Iff.trans ends_bind_iff ?_
    constructor
    · rintro ⟨answer, first, rest, rfl, hfirst, hrest⟩
      obtain rfl := Work.ends_call_iff.1 hfirst
      cases answer with
      | error e =>
        obtain ⟨rfl, rfl⟩ := ends_done_iff.1 hrest
        exact .unread e
      | ok page =>
        obtain ⟨failures, round, more, rfl, hround, hmore⟩ := ends_bind_iff.1 hrest
        have hround' := ends_visitAll_iff.1 hround
        cases hlast : page.getLast? with
        | none =>
          simp only [hlast] at hmore
          obtain ⟨rfl, rfl⟩ := ends_done_iff.1 hmore
          rw [List.append_nil]
          exact .last hround' (.inr (List.getLast?_eq_none_iff.1 hlast))
        | some v =>
          simp only [hlast] at hmore
          by_cases hfull : page.length < q.pageSize
          · simp only [if_pos hfull] at hmore
            obtain ⟨rfl, rfl⟩ := ends_done_iff.1 hmore
            rw [List.append_nil]
            exact .last hround' (.inl hfull)
          · simp only [if_neg hfull] at hmore
            obtain ⟨report, hpass, rfl⟩ := ends_bind_done_iff.1 hmore
            rw [List.singleton_append]
            exact .more hround' (Nat.le_of_not_lt hfull) hlast (ih.1 hpass)
    · intro h
      cases h with
      | unread e => exact ⟨.error e, [_], [], rfl, Work.ends_call_iff.2 rfl, .nil _⟩
      | @last _ _ page round failures hround hlast =>
        refine ⟨.ok page, [_], round, rfl, Work.ends_call_iff.2 rfl, ?_⟩
        refine ends_bind_iff.2 ⟨failures, round, [], (List.append_nil _).symm,
          ends_visitAll_iff.2 hround, ?_⟩
        cases hv : page.getLast? with
        | none => exact .nil _
        | some v =>
          have hshort : page.length < q.pageSize := hlast.resolve_right fun hnil => by
            rw [hnil] at hv
            cases hv
          simp only [if_pos hshort]
          exact .nil _
      | @more _ _ page v round rest failures report hround hfull hlast hrest =>
        refine ⟨.ok page, [_], round ++ rest, rfl, Work.ends_call_iff.2 rfl, ?_⟩
        refine ends_bind_iff.2 ⟨failures, round, rest, rfl, ends_visitAll_iff.2 hround, ?_⟩
        simp only [hlast, if_neg (Nat.not_lt.2 hfull)]
        exact ends_bind_done_iff.2 ⟨report, ih.2 hrest, rfl⟩

end VisitQueue

/-- Every member stands for an inquiry. -/
def VisitTable.Readable (s : VisitTable) : Prop :=
  ∀ v ∈ s.visits, ∃ p : Inquiry, v.1 = p.member

namespace VisitTable.Readable

variable {s : VisitTable}

theorem empty : VisitTable.empty.Readable := by
  intro v hv
  cases hv

theorem upsert (h : s.Readable) (p : Inquiry) (score : Int) :
    (s.upsert p.member score).Readable := by
  intro v hv
  obtain hname | hmem := mem_upsertVisit hv
  · exact ⟨p, hname⟩
  · exact h v hmem

theorem dropAll (h : s.Readable) (bounds : List Int) : (s.dropAll bounds).Readable := by
  intro v hv
  exact h v (VisitTable.mem_of_mem_dropAll hv)

end VisitTable.Readable

/-- The bound of an exchange that dropped the scores below it. -/
def droppedBelow? : Exchange surroundings → Option Int
  | ⟨.dropVisitsBelow least, .ok _⟩ => some least
  | _ => none

/-- No exchange adds a member or removes one by its name. -/
def OnlyExpires (exchanges : List (Exchange surroundings)) : Prop :=
  ∀ e ∈ exchanges, (∀ member score, e.1 ≠ .upsertVisit member score) ∧
    ∀ member, e.1 ≠ .removeVisit member

namespace OnlyExpires

variable {first rest exchanges : List (Exchange surroundings)}

theorem nil : OnlyExpires [] := by
  intro e he
  cases he

theorem append (hfirst : OnlyExpires first) (hrest : OnlyExpires rest) :
    OnlyExpires (first ++ rest) := by
  intro e he
  obtain he | he := List.mem_append.1 he
  · exact hfirst e he
  · exact hrest e he

theorem cons {e : Exchange surroundings} (hadd : ∀ member score, e.1 ≠ .upsertVisit member score)
    (hremove : ∀ member, e.1 ≠ .removeVisit member) (hrest : OnlyExpires rest) :
    OnlyExpires (e :: rest) := by
  intro x hx
  obtain rfl | hx := List.mem_cons.1 hx
  · exact ⟨hadd, hremove⟩
  · exact hrest x hx

/-- Members only age out. -/
theorem visits_run (h : OnlyExpires exchanges) (t : Tables) :
    (t.run exchanges).visits = t.visits.dropAll (exchanges.filterMap droppedBelow?) := by
  induction exchanges generalizing t with
  | nil => rfl
  | cons e rest ih =>
    have hrest : OnlyExpires rest := fun x hx => h x (List.mem_cons_of_mem _ hx)
    obtain ⟨hadd, hremove⟩ := h e List.mem_cons_self
    rw [Tables.run_cons, ih hrest]
    obtain ⟨r, answer⟩ := e
    cases r with
    | dropVisitsBelow least => cases answer <;> rfl
    | upsertVisit member score => exact absurd rfl (hadd member score)
    | removeVisit member => exact absurd rfl (hremove member)
    | saveCursor | addRecords => cases answer <;> rfl
    | _ => rfl

theorem readable_run (h : OnlyExpires exchanges) {t : Tables} (hread : t.visits.Readable) :
    (t.run exchanges).visits.Readable := by
  rw [h.visits_run]
  exact hread.dropAll _

end OnlyExpires

namespace VisitQueue

/-- What is done with each member adds none and removes none by its name, where all of them can be
read, and does not fail as what no later pass can serve. -/
def Forbears (f : Inquiry → Crawl Unit) : Prop :=
  ∀ (p : Inquiry) (t : Tables) (exchanges : List (Exchange surroundings)) (result : Fallible Unit),
    t.visits.Readable → (f p).run.Ends exchanges result → t.Permits exchanges →
      OnlyExpires exchanges ∧ ∀ e, result = .error e → isPermanent e = false

variable {f : Inquiry → Crawl Unit} {exchanges : List (Exchange surroundings)} {t : Tables}

theorem Encounter.onlyExpires (hf : Forbears f) {p : Inquiry} {failure : Option PassFailure}
    (h : Encounter f p.member exchanges failure) (hread : t.visits.Readable)
    (hpermits : t.Permits exchanges) : OnlyExpires exchanges := by
  have hmember := p.ofMember_member
  cases h with
  | unread hunread =>
    rw [hmember] at hunread
    cases hunread
  | served hserved hserving => exact (hf _ t _ _ hread hserving hpermits).1
  | failed hserved hserving hpassing => exact (hf _ t _ _ hread hserving hpermits).1
  | refused hserved hserving hpermanent =>
    obtain ⟨hserving', -⟩ := Tables.permits_append_iff.1 hpermits
    have hpassing := (hf _ t _ _ hread hserving hserving').2 _ rfl
    rw [hpassing] at hpermanent
    cases hpermanent

theorem Round.onlyExpires (hf : Forbears f) {page : List Visit} {failures : List PassFailure}
    (h : Round f page exchanges failures) (hpage : ∀ v ∈ page, ∃ p : Inquiry, v.1 = p.member)
    (hread : t.visits.Readable) (hpermits : t.Permits exchanges) : OnlyExpires exchanges := by
  induction h generalizing t with
  | nil => exact .nil
  | cons hfirst hrest ih =>
    obtain ⟨hpermitsFirst, hpermitsRest⟩ := Tables.permits_append_iff.1 hpermits
    obtain ⟨p, hp⟩ := hpage _ List.mem_cons_self
    rw [hp] at hfirst
    have honly := hfirst.onlyExpires hf hread hpermitsFirst
    exact honly.append (ih (fun v hv => hpage v (List.mem_cons_of_mem _ hv))
      (honly.readable_run hread) hpermitsRest)

/-- A pass over members that can be read removes none of them by itself. -/
theorem Course.onlyExpires (hf : Forbears f) {q : VisitQueue} {least : Int} {pages : Nat}
    {after : Option String} {report : Option PassReport}
    (h : Course q least f pages after exchanges report) (hread : t.visits.Readable)
    (hpermits : t.Permits exchanges) : OnlyExpires exchanges := by
  induction h generalizing t with
  | cutOff => exact .nil
  | unread e => exact .cons nofun nofun .nil
  | last hround =>
    obtain ⟨hallows, hpermitsRound⟩ := hpermits
    refine .cons nofun nofun (hround.onlyExpires hf (fun v hv => ?_) hread hpermitsRound)
    obtain rfl : _ = t.visits.membersAfter _ _ _ := hallows
    exact hread v (VisitTable.mem_of_mem_membersAfter hv)
  | more hround hfull hlast hrest ih =>
    obtain ⟨hallows, hpermitsMore⟩ := hpermits
    obtain ⟨hpermitsRound, hpermitsRest⟩ := Tables.permits_append_iff.1 hpermitsMore
    have honly := hround.onlyExpires hf (fun v hv => by
      obtain rfl : _ = t.visits.membersAfter _ _ _ := hallows
      exact hread v (VisitTable.mem_of_mem_membersAfter hv)) hread hpermitsRound
    exact .cons nofun nofun (honly.append (ih (honly.readable_run hread) hpermitsRest))

end VisitQueue

end ChainCrawl
