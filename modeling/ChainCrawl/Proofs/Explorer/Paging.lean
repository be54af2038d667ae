import ChainCrawl.Proofs.Explorer.Listing

namespace ChainCrawl.Explorer

open Proc

/-- Requests for pages by their numbers. -/
abbrev pageRequests : Signature where
  Request := Nat
  Answer := fun _ => Except ExplorerFailure (List Json)

def askPage (page : Nat) : Query pageRequests (List Json) :=
  ExceptT.mk (Proc.request (S := pageRequests) page)

namespace Listing

variable (q : Listing)

/-- The number of pages that are asked for where a list has so many items. -/
def pagesFor (count : Nat) : Nat :=
  if q.whole then min (count / q.pageSize + 1) q.pageLimit else 1

/-- What a list comes to: all of it, unless it is to be read whole and reaches too far, or only a
first page of it is wanted. -/
def outcome (xs : List Json) : Except ExplorerFailure (List Json) :=
  if q.whole then
    if xs.length < q.pageLimit * q.pageSize then .ok xs
    else .error (.overfull q.firstBlock q.lastBlock reachableItems)
  else .ok (xs.take (min q.pageSize xs.length))

def showing (xs : List Json) (page : Nat) : Exchange pageRequests :=
  ⟨page, .ok (q.pageAfter xs (page - 1))⟩

theorem pageLimit_mul_pageSize_le : q.pageLimit * q.pageSize ≤ reachableItems :=
  Nat.div_mul_le_self _ _

end Listing

section

variable {S : Signature} (q : Listing) (fetchPage : Nat → Query S (List Json))

/-- How the items from a page on are read, where some pages after it can still be reached. -/
inductive PageCourse : Nat → Nat → List (Exchange S) → Except ExplorerFailure (List Json) →
    Prop where
  /-- The page fails. -/
  | failed {further page : Nat} {own : List (Exchange S)} {e : ExplorerFailure}
      (hpage : (fetchPage page).run.Ends own (.error e)) : PageCourse further page own (.error e)
  /-- No other page is wanted. -/
  | last {further page : Nat} {own : List (Exchange S)} {items : List Json}
      (hpage : (fetchPage page).run.Ends own (.ok items))
      (hlast : q.whole = true → items.length < q.pageSize) :
      PageCourse further page own (.ok items)
  /-- Another page is wanted, but none can be reached. -/
  | tooFar {page : Nat} {own : List (Exchange S)} {items : List Json}
      (hpage : (fetchPage page).run.Ends own (.ok items)) (hwhole : q.whole = true)
      (hfull : q.pageSize ≤ items.length) :
      PageCourse 0 page own (.error (.overfull q.firstBlock q.lastBlock reachableItems))
  /-- The next page is read, and what comes of it follows. -/
  | next {further page : Nat} {own rest : List (Exchange S)} {items : List Json}
      {more : Except ExplorerFailure (List Json)}
      (hpage : (fetchPage page).run.Ends own (.ok items)) (hwhole : q.whole = true)
      (hfull : q.pageSize ≤ items.length) (hrest : PageCourse further (page + 1) rest more) :
      PageCourse (further + 1) page (own ++ rest) (more.map (items ++ ·))

end

variable {S : Signature} {q : Listing} {fetchPage : Nat → Query S (List Json)}
  {further page : Nat} {exchanges : List (Exchange S)} {b : Except ExplorerFailure (List Json)}

theorem wantsNoMore_iff {items : List Json} :
    (!q.whole || items.length < q.pageSize) = true ↔
      (q.whole = true → items.length < q.pageSize) := by
  cases q.whole <;> simp

/-- A page fails, or is the last one that is wanted, or is read on from. -/
theorem ends_turn_iff {k : List Json → Query S (List Json)} :
    (do
        let items ← fetchPage page
        if !q.whole || items.length < q.pageSize then return items else k items :
          Query S (List Json)).run.Ends exchanges b ↔
      (∃ e, (fetchPage page).run.Ends exchanges (.error e) ∧ b = .error e) ∨
      (∃ items, (fetchPage page).run.Ends exchanges (.ok items) ∧
        (q.whole = true → items.length < q.pageSize) ∧ b = .ok items) ∨
      ∃ items own rest, exchanges = own ++ rest ∧ (fetchPage page).run.Ends own (.ok items) ∧
        q.whole = true ∧ q.pageSize ≤ items.length ∧ (k items).run.Ends rest b := by
  rw [ends_run_bind_iff]
  constructor
  · rintro (⟨items, own, rest, rfl, hpage, hrest⟩ | ⟨e, hpage, rfl⟩)
    · split at hrest
      · rename_i hlast
        obtain ⟨rfl, rfl⟩ := ends_run_pure_iff.1 hrest
        rw [List.append_nil]
        exact .inr (.inl ⟨items, hpage, wantsNoMore_iff.1 hlast, rfl⟩)
      · rename_i hmore
        obtain ⟨hwhole, hfull⟩ := Classical.not_imp.1 (mt wantsNoMore_iff.2 hmore)
        exact .inr (.inr ⟨items, own, rest, rfl, hpage, hwhole, Nat.not_lt.1 hfull, hrest⟩)
    · exact .inl ⟨e, hpage, rfl⟩
  · rintro (⟨e, hpage, rfl⟩ | ⟨items, hpage, hlast, rfl⟩ |
      ⟨items, own, rest, rfl, hpage, hwhole, hfull, hrest⟩)
    · exact .inr ⟨e, hpage, rfl⟩
    · refine .inl ⟨items, exchanges, [], (List.append_nil _).symm, hpage, ?_⟩
      rw [if_pos (wantsNoMore_iff.2 hlast)]
      exact ends_run_pure_iff.2 ⟨rfl, rfl⟩
    · refine .inl ⟨items, own, rest, rfl, hpage, ?_⟩
      rw [if_neg fun hlast => Nat.not_lt.2 hfull (wantsNoMore_iff.1 hlast hwhole)]
      exact hrest

/-- Reading on from a page goes one of four ways. -/
theorem ends_pagesFrom_iff :
    (pagesFrom q fetchPage further page).run.Ends exchanges b ↔
      PageCourse q fetchPage further page exchanges b := by
  induction further generalizing page exchanges b with
  | zero =>
    unfold pagesFrom
    rw [ends_turn_iff]
    constructor
    · rintro (⟨e, hpage, rfl⟩ | ⟨items, hpage, hlast, rfl⟩ |
        ⟨items, own, rest, rfl, hpage, hwhole, hfull, hrest⟩)
      · exact .failed hpage
      · exact .last hpage hlast
      · obtain ⟨rfl, rfl⟩ := ends_run_throw_iff.1 hrest
        rw [List.append_nil]
        exact .tooFar hpage hwhole hfull
    · intro hcourse
      cases hcourse with
      | failed hpage => exact .inl ⟨_, hpage, rfl⟩
      | last hpage hlast => exact .inr (.inl ⟨_, hpage, hlast, rfl⟩)
      | tooFar hpage hwhole hfull =>
        exact .inr (.inr ⟨_, _, [], (List.append_nil _).symm, hpage, hwhole, hfull,
          ends_run_throw_iff.2 ⟨rfl, rfl⟩⟩)
  | succ further ih =>
    unfold pagesFrom
    rw [ends_turn_iff]
    constructor
    · rintro (⟨e, hpage, rfl⟩ | ⟨items, hpage, hlast, rfl⟩ |
        ⟨items, own, rest, rfl, hpage, hwhole, hfull, hrest⟩)
      · exact .failed hpage
      · exact .last hpage hlast
      · obtain ⟨more, hmore, rfl⟩ := ends_run_bind_pure_iff.1 hrest
        exact .next hpage hwhole hfull (ih.1 hmore)
    · intro hcourse
      cases hcourse with
      | failed hpage => exact .inl ⟨_, hpage, rfl⟩
      | last hpage hlast => exact .inr (.inl ⟨_, hpage, hlast, rfl⟩)
      | next hpage hwhole hfull hrest =>
        exact .inr (.inr ⟨_, _, _, rfl, hpage, hwhole, hfull,
          ends_run_bind_pure_iff.2 ⟨_, ih.2 hrest, rfl⟩⟩)

/-- Where an exchange fails the page that it is made for, that page is the last one that is read,
and its failure is that of the list. -/
theorem PageCourse.ends_with_failed (h : PageCourse q fetchPage further page exchanges b)
    {x : Exchange S} {e : ExplorerFailure} (hx : x ∈ exchanges)
    (hfails : ∀ number own answer, (fetchPage number).run.Ends own answer → x ∈ own →
      answer = .error e) :
    (∃ earlier own number, exchanges = earlier ++ own ∧
      (fetchPage number).run.Ends own (.error e) ∧ x ∈ own) ∧ b = .error e := by
  induction h with
  | @failed _ page own _ hpage =>
    cases hfails _ _ _ hpage hx
    exact ⟨⟨[], own, page, rfl, hpage, hx⟩, rfl⟩
  | last hpage _ | tooFar hpage _ _ => cases hfails _ _ _ hpage hx
  | next hpage _ _ _ ih =>
    obtain hx | hx := List.mem_append.1 hx
    · cases hfails _ _ _ hpage hx
    · obtain ⟨⟨earlier, own, number, rfl, hown, hmem⟩, rfl⟩ := ih hx
      exact ⟨⟨_, own, number, (List.append_assoc _ _ _).symm, hown, hmem⟩, rfl⟩

/-- A list has failed by an exchange by which each of its pages has. -/
theorem failsAt_pagesFrom [∀ r : S.Request, Nonempty (S.Answer r)] {x : Exchange S}
    {Fault : ExplorerFailure → Prop} (hpages : ∀ number, (fetchPage number).run.FailsAt x Fault) :
    (pagesFrom q fetchPage further page).run.FailsAt x Fault := by
  induction further generalizing page with
  | zero =>
    unfold pagesFrom
    refine (hpages page).bind fun items => ?_
    split
    · exact failsAt_done _
    · exact failsAt_done _
  | succ further ih =>
    unfold pagesFrom
    refine (hpages page).bind fun items => ?_
    split
    · exact failsAt_done _
    · exact FailsAt.bind ih fun more => failsAt_done _

theorem ends_askPage_iff {own : List (Exchange pageRequests)}
    {answer : Except ExplorerFailure (List Json)} :
    (askPage page).run.Ends own answer ↔ own = [⟨page, answer⟩] := by
  refine Iff.trans ends_ask_iff ?_
  constructor
  · rintro ⟨answered, rest, rfl, hrest⟩
    obtain ⟨rfl, rfl⟩ := ends_done_iff.1 hrest
    rfl
  · rintro rfl
    exact ⟨answer, [], rfl, .nil _⟩

/-- Whatever the pages hold, they are asked for in turn. -/
theorem PageCourse.requests {exchanges : List (Exchange pageRequests)}
    (h : PageCourse q askPage further page exchanges b) :
    ∃ count, count ≤ further + 1 ∧ exchanges.map (·.1) = List.range' page count := by
  induction h with
  | failed hpage | last hpage _ | tooFar hpage _ _ =>
    obtain rfl := ends_askPage_iff.1 hpage
    exact ⟨1, by omega, rfl⟩
  | next hpage _ _ _ ih =>
    obtain rfl := ends_askPage_iff.1 hpage
    obtain ⟨count, hcount, hrest⟩ := ih
    exact ⟨count + 1, by omega, congrArg (_ :: ·) hrest⟩

/-- A page that fails is the last one that is asked for, and its failure is that of the list. -/
theorem PageCourse.eq_error {exchanges : List (Exchange pageRequests)}
    (h : PageCourse q askPage further page exchanges b) {failed : Nat} {e : ExplorerFailure}
    (hfailed : ⟨failed, .error e⟩ ∈ exchanges) :
    (∃ earlier, exchanges = earlier ++ [⟨failed, .error e⟩]) ∧ b = .error e := by
  have hfails : ∀ number own answer, (askPage number).run.Ends own answer →
      ⟨failed, .error e⟩ ∈ own → answer = .error e := by
    intro number own answer hpage hmem
    obtain rfl := ends_askPage_iff.1 hpage
    cases List.mem_singleton.1 hmem
    rfl
  obtain ⟨⟨earlier, own, number, rfl, hown, hmem⟩, rfl⟩ := h.ends_with_failed hfailed hfails
  obtain rfl := ends_askPage_iff.1 hown
  cases List.mem_singleton.1 hmem
  exact ⟨⟨earlier, rfl⟩, rfl⟩

/-- The items on a page that shows a list. -/
theorem eq_pageAfter_of_shown {xs items : List Json} {rest : List (Exchange pageRequests)}
    (hshown : ∀ x ∈ (⟨page, .ok items⟩ :: rest : List (Exchange pageRequests)),
      x.2 = .ok (q.pageAfter xs (x.1 - 1))) : items = q.pageAfter xs (page - 1) :=
  Except.ok.inj (hshown _ List.mem_cons_self)

/-- Where the pages show a list, they are asked for until the list has ended or none can be reached
any more. -/
theorem PageCourse.eq_map_showing {exchanges : List (Exchange pageRequests)} {xs : List Json}
    (h : PageCourse q askPage further page exchanges b) (hwhole : q.whole = true)
    (hshown : ∀ x ∈ exchanges, x.2 = .ok (q.pageAfter xs (x.1 - 1))) {earlier : Nat}
    (hpage : page = earlier + 1) :
    exchanges = (List.range' page (min (xs.length / q.pageSize - earlier) further + 1)).map
      (q.showing xs) := by
  have hsize : 0 < q.pageSize := q.one_le_pageSize
  induction h generalizing earlier with
  | failed hown =>
    obtain rfl := ends_askPage_iff.1 hown
    cases hshown _ List.mem_cons_self
  | last hown hlast =>
    obtain rfl := ends_askPage_iff.1 hown
    obtain rfl := eq_pageAfter_of_shown hshown
    subst hpage
    have hshort := Listing.length_pageAfter_lt_iff.1 (hlast hwhole)
    have hended : xs.length / q.pageSize < earlier + 1 := (Nat.div_lt_iff_lt_mul hsize).2 hshort
    have hcount : xs.length / q.pageSize - earlier = 0 := by omega
    rw [hcount, Nat.zero_min]
    rfl
  | tooFar hown _ _ =>
    obtain rfl := ends_askPage_iff.1 hown
    obtain rfl := eq_pageAfter_of_shown hshown
    rw [Nat.min_zero]
    rfl
  | @next further page own rest items more hown _ hfull _ ih =>
    obtain rfl := ends_askPage_iff.1 hown
    obtain rfl := eq_pageAfter_of_shown hshown
    have hrest := ih (fun x hx => hshown x (List.mem_cons_of_mem _ hx)) (congrArg (· + 1) hpage)
    subst hpage
    have hlong := mt Listing.length_pageAfter_lt_iff.2 (Nat.not_lt.2 hfull)
    have hmore : ¬ xs.length / q.pageSize < earlier + 1 :=
      mt (Nat.div_lt_iff_lt_mul hsize).1 hlong
    have hcount : min (xs.length / q.pageSize - earlier) (further + 1) =
        min (xs.length / q.pageSize - (earlier + 1)) further + 1 := by
      omega
    rw [hrest, hcount, List.range'_succ]
    rfl

/-- Where the pages show a list, how many are asked for is told by its length. -/
theorem eq_map_showing_of_ends {exchanges : List (Exchange pageRequests)} {xs : List Json}
    (h : (readPages q askPage).run.Ends exchanges b)
    (hshown : ∀ x ∈ exchanges, x.2 = .ok (q.pageAfter xs (x.1 - 1))) :
    exchanges = (List.range' 1 (q.pagesFor xs.length)).map (q.showing xs) := by
  have hcourse := ends_pagesFrom_iff.1 h
  by_cases hwhole : q.whole = true
  · have hlimit := q.one_le_pageLimit
    have hcount : q.pagesFor xs.length =
        min (xs.length / q.pageSize - 0) (q.pageLimit - 1) + 1 := by
      rw [Listing.pagesFor, if_pos hwhole]
      generalize xs.length / q.pageSize = full
      omega
    rw [hcount]
    exact hcourse.eq_map_showing hwhole hshown rfl
  · rw [Listing.pagesFor, if_neg hwhole]
    generalize q.pageLimit - 1 = further at hcourse
    cases hcourse with
    | failed hpage =>
      obtain rfl := ends_askPage_iff.1 hpage
      cases hshown _ List.mem_cons_self
    | last hpage _ =>
      obtain rfl := ends_askPage_iff.1 hpage
      obtain rfl := eq_pageAfter_of_shown hshown
      rfl
    | tooFar _ hwhole' _ | next _ hwhole' _ _ => exact absurd hwhole' hwhole

/-- Where the pages show a list, what comes of them is told by the list. -/
theorem eq_outcome_of_ends {exchanges : List (Exchange pageRequests)} {xs : List Json}
    (h : (readPages q askPage).run.Ends exchanges b)
    (hshown : ∀ x ∈ exchanges, x.2 = .ok (q.pageAfter xs (x.1 - 1))) : b = q.outcome xs := by
  rw [eq_value_of_ends (S := pageRequests) (fun page => .ok (q.pageAfter xs (page - 1))) h hshown]
  by_cases hwhole : q.whole = true
  · rw [Listing.outcome, if_pos hwhole]
    exact value_readPages hwhole fun earlier _ _ => rfl
  · rw [Listing.outcome, if_neg hwhole]
    have hfirst : q.pageAfter xs 0 = xs.take (min q.pageSize xs.length) := by
      rw [Listing.pageAfter, Nat.zero_mul, List.drop_zero, ← List.take_eq_take_min]
    exact value_readPages_of_not_whole hwhole (congrArg _ hfirst)

/-- Whatever is made of the items on a page, how the page is fetched changes nothing in it. -/
theorem run_turn_eq_interpret {k : List Json → Query S (List Json)}
    {k' : List Json → Query pageRequests (List Json)}
    (hk : ∀ items, (k items).run = (k' items).run.interpret fun number => (fetchPage number).run) :
    (do
        let items ← fetchPage page
        if !q.whole || items.length < q.pageSize then return items else k items :
          Query S (List Json)).run =
      (do
        let items ← askPage page
        if !q.whole || items.length < q.pageSize then return items else k' items :
          Query pageRequests (List Json)).run.interpret fun number => (fetchPage number).run := by
  refine congrArg ((fetchPage page).run.bind ·) (funext fun answered => ?_)
  cases answered with
  | error e => rfl
  | ok items =>
    change ExceptT.run (if !q.whole || items.length < q.pageSize then pure items else k items) =
      interpret _
        (ExceptT.run (if !q.whole || items.length < q.pageSize then pure items else k' items))
    split
    · rfl
    · exact hk items

/-- Pages are read in the same way wherever they come from: each page that is asked for is
fetched. -/
theorem run_pagesFrom_eq_interpret :
    (pagesFrom q fetchPage further page).run =
      (pagesFrom q askPage further page).run.interpret fun number => (fetchPage number).run := by
  induction further generalizing page with
  | zero =>
    unfold pagesFrom
    exact run_turn_eq_interpret fun items => rfl
  | succ further ih =>
    unfold pagesFrom
    refine run_turn_eq_interpret fun items => ?_
    have hbind := interpret_bind (S := pageRequests) (fun number => (fetchPage number).run)
      (pagesFrom q askPage further (page + 1)).run
      (ExceptT.bindCont fun more => pure (items ++ more))
    rw [← ih] at hbind
    refine Eq.trans ?_ hbind.symm
    refine congrArg (Proc.bind _ ·) (funext fun more => ?_)
    cases more <;> rfl

end ChainCrawl.Explorer
