import ChainCrawl.Proofs.Visit.Pass

namespace ChainCrawl

open Proc

/-- Something that is done with the queue. A pass is told with the expiries that were called for
while it went on. -/
inductive QueueAct where
  | touched (p : Inquiry) (instant : Time.Instant)
  | expired (now : Time.Instant) (retentionSecs : Nat)
  | passed (q : VisitQueue) (pages : Nat) (now : Time.Instant) (f : Inquiry → Crawl Unit)
      (meanwhile : List (Time.Instant × Nat))

namespace QueueAct

/-- The expiries of an act, each with its instant and the retention in seconds. -/
def expiries : QueueAct → List (Time.Instant × Nat)
  | touched _ _ => []
  | expired now retentionSecs => [(now, retentionSecs)]
  | passed _ _ _ _ meanwhile => meanwhile

/-- The exchanges carry the act out. What a pass does with the members adds none and finds none
that no pass can serve. -/
def CarriedOut : QueueAct → List (Exchange surroundings) → Prop
  | touched p instant, exchanges => (VisitQueue.touchAt p instant).run.Ends exchanges (.ok ())
  | expired now retentionSecs, exchanges =>
    ∃ n, (VisitQueue.dropOld now retentionSecs).run.Ends exchanges (.ok n)
  | passed q pages now f meanwhile, exchanges =>
    VisitQueue.Forbears f ∧ (∃ report, (q.pass pages now f).Ends exchanges report) ∧
      exchanges.filterMap droppedBelow? = meanwhile.map fun e => oldestKept e.1 e.2

theorem carriedOut_touched_iff {p : Inquiry} {instant : Time.Instant}
    {exchanges : List (Exchange surroundings)} :
    (touched p instant).CarriedOut exchanges ↔
      exchanges = [⟨.upsertVisit p.member instant.seconds, .ok ()⟩] :=
  Iff.trans Work.ends_fromTable_ok_iff Work.ends_call_iff

theorem carriedOut_expired_iff {now : Time.Instant} {retentionSecs : Nat}
    {exchanges : List (Exchange surroundings)} :
    (expired now retentionSecs).CarriedOut exchanges ↔
      ∃ n, exchanges = [⟨.dropVisitsBelow (oldestKept now retentionSecs), .ok n⟩] :=
  exists_congr fun _ => Iff.trans Work.ends_fromTable_ok_iff Work.ends_call_iff

end QueueAct

/-- The acts lead from some tables to others, one after the other. -/
inductive History (start : Tables) : List QueueAct → Tables → Prop where
  | nil : History start [] start
  | snoc {acts : List QueueAct} {act : QueueAct} {t : Tables}
      {exchanges : List (Exchange surroundings)} (h : History start acts t)
      (hact : act.CarriedOut exchanges) (hpermits : t.Permits exchanges) :
      History start (acts ++ [act]) (t.run exchanges)

/-- The inquiry, windows aside, was visited in this second, and no later expiry was too late. -/
def Survives (acts : List QueueAct) (p : Inquiry) (second : Int) : Prop :=
  ∃ (before after : List QueueAct) (q : Inquiry) (instant : Time.Instant),
    acts = before ++ .touched q instant :: after ∧ q.withoutWindow = p.withoutWindow ∧
      instant.seconds = second ∧
      ∀ act ∈ after, ∀ e ∈ act.expiries, e.1.seconds ≤ second + e.2

/-- The latest of some seconds, if there is any. -/
def IsLatest (seconds : Int → Prop) : Option Int → Prop
  | none => ∀ second, ¬ seconds second
  | some second => seconds second ∧ ∀ other, seconds other → other ≤ second

theorem IsLatest.unique {seconds : Int → Prop} {a b : Option Int} (ha : IsLatest seconds a)
    (hb : IsLatest seconds b) : a = b := by
  cases a with
  | none =>
    cases b with
    | none => rfl
    | some y => exact absurd hb.1 (ha y)
  | some x =>
    cases b with
    | none => exact absurd ha.1 (hb x)
    | some y => rw [Int.le_antisymm (hb.2 x ha.1) (ha.2 y hb.1)]

theorem IsLatest.congr {seconds others : Int → Prop} {latest : Option Int}
    (h : IsLatest seconds latest) (heq : ∀ second, others second ↔ seconds second) :
    IsLatest others latest := by
  rwa [show others = seconds from funext fun second => propext (heq second)]

/-- Another second is the latest one if it is later than the latest before. -/
theorem IsLatest.raised {seconds : Int → Prop} {latest : Option Int} (h : IsLatest seconds latest)
    (second : Int) :
    IsLatest (fun other => second = other ∨ seconds other)
      (some (VisitTable.raised latest second)) := by
  cases latest with
  | none =>
    refine ⟨.inl rfl, ?_⟩
    rintro other (rfl | hother)
    · exact Int.le_refl _
    · exact absurd hother (h other)
  | some last =>
    obtain ⟨hlast, hmost⟩ := h
    change (second = max last second ∨ seconds (max last second)) ∧ _
    refine ⟨?_, ?_⟩
    · obtain hle | hle := Int.le_total last second
      · exact .inl (Int.max_eq_right hle).symm
      · exact .inr ((Int.max_eq_left hle).symm ▸ hlast)
    · rintro other (rfl | hother)
      · exact Int.le_max_right _ _
      · exact Int.le_trans (hmost other hother) (Int.le_max_left _ _)

/-- Where later seconds pass whatever test earlier ones pass, the latest decides. -/
theorem IsLatest.filter {seconds : Int → Prop} {latest : Option Int} {test : Int → Bool}
    (h : IsLatest seconds latest)
    (hmono : ∀ second other, test second → second ≤ other → test other) :
    IsLatest (fun second => seconds second ∧ test second) (latest.filter test) := by
  cases latest with
  | none => exact fun second hsecond => h second hsecond.1
  | some last =>
    obtain ⟨hlast, hmost⟩ := h
    cases htest : test last with
    | false =>
      rw [Option.filter_some_neg (by simp [htest])]
      rintro second ⟨hsecond, hpass⟩
      have hpassed := hmono second last hpass (hmost second hsecond)
      rw [htest] at hpassed
      cases hpassed
    | true =>
      rw [Option.filter_some_pos htest]
      exact ⟨⟨hlast, htest⟩, fun second hsecond => hmost second hsecond.1⟩

section Survives

variable {acts : List QueueAct} {act : QueueAct} {p : Inquiry} {second : Int}

/-- The second of a visit is that of an instant. -/
theorem Survives.bounds (h : Survives acts p second) :
    Time.firstSecond ≤ second ∧ second ≤ Time.lastSecond := by
  obtain ⟨before, after, q, instant, -, -, rfl, -⟩ := h
  exact ⟨instant.first_le, instant.le_last⟩

theorem not_survives_nil : ¬ Survives [] p second := by
  rintro ⟨before, after, q, instant, heq, -⟩
  simp at heq

/-- A further act is itself a visit, or it is an occasion for earlier visits to expire. -/
theorem survives_snoc_iff :
    Survives (acts ++ [act]) p second ↔
      (∃ q instant, act = .touched q instant ∧ q.withoutWindow = p.withoutWindow ∧
        instant.seconds = second) ∨
      Survives acts p second ∧ ∀ e ∈ act.expiries, e.1.seconds ≤ second + e.2 := by
  constructor
  · rintro ⟨before, after, q, instant, heq, hq, hsecond, hafter⟩
    obtain rfl | ⟨after, last, rfl⟩ := after.eq_nil_or_concat
    · obtain ⟨-, hact⟩ := List.append_inj' heq rfl
      exact .inl ⟨q, instant, (List.cons.inj hact).1, hq, hsecond⟩
    · rw [List.concat_eq_append] at heq hafter
      have hsplit : acts ++ [act] = (before ++ .touched q instant :: after) ++ [last] := by
        rw [heq, List.append_assoc, List.cons_append]
      obtain ⟨rfl, hact⟩ := List.append_inj' hsplit rfl
      obtain rfl := (List.cons.inj hact).1
      refine .inr ⟨⟨before, after, q, instant, rfl, hq, hsecond, fun a ha => ?_⟩, ?_⟩
      · exact hafter a (List.mem_append_left _ ha)
      · exact hafter act (List.mem_append_right _ List.mem_cons_self)
  · rintro (⟨q, instant, rfl, hq, hsecond⟩ | ⟨⟨before, after, q, instant, rfl, hq, hsecond, hafter⟩,
      hact⟩)
    · exact ⟨acts, [], q, instant, rfl, hq, hsecond, fun a ha => by cases ha⟩
    · refine ⟨before, after ++ [act], q, instant, by simp, hq, hsecond, fun a ha => ?_⟩
      obtain ha | ha := List.mem_append.1 ha
      · exact hafter a ha
      · rw [List.mem_singleton.1 ha]
        exact hact

end Survives

/-- With seconds of instants the bound of an expiry is exact, however long the retention is. -/
theorem oldestKept_le_iff {second : Int} (hfirst : Time.firstSecond ≤ second)
    (hlast : second ≤ Time.lastSecond) (now : Time.Instant) (retentionSecs : Nat) :
    oldestKept now retentionSecs ≤ second ↔ now.seconds ≤ second + retentionSecs := by
  have hnowFirst := now.first_le
  have hnowLast := now.le_last
  simp only [Time.firstSecond, Time.lastSecond] at hfirst hlast hnowFirst hnowLast
  simp only [oldestKept, Word.maxInt64, Word.minInt64]
  omega

/-- An act sets the score of the member that it visits, and all others can only age out. -/
theorem QueueAct.CarriedOut.visits_run {act : QueueAct} {exchanges : List (Exchange surroundings)}
    {t : Tables} (h : act.CarriedOut exchanges) (hread : t.visits.Readable)
    (hpermits : t.Permits exchanges) :
    (∃ p instant, act = .touched p instant ∧
      (t.run exchanges).visits = t.visits.upsert p.member instant.seconds) ∨
    (∀ p instant, act ≠ .touched p instant) ∧
      (t.run exchanges).visits =
        t.visits.dropAll (act.expiries.map fun e => oldestKept e.1 e.2) := by
  cases act with
  | touched p instant =>
    obtain rfl := QueueAct.carriedOut_touched_iff.1 h
    exact .inl ⟨p, instant, rfl, by rw [Tables.run_cons, Tables.run_nil, Tables.after]⟩
  | expired now retentionSecs =>
    obtain ⟨n, rfl⟩ := QueueAct.carriedOut_expired_iff.1 h
    refine .inr ⟨fun p instant heq => QueueAct.noConfusion heq, ?_⟩
    rw [Tables.run_cons, Tables.run_nil, Tables.after]
    rfl
  | passed q pages now f meanwhile =>
    obtain ⟨hf, ⟨report, hpass⟩, hmeanwhile⟩ := h
    have honly := (VisitQueue.ends_passFrom_iff.1 hpass).onlyExpires hf hread hpermits
    refine .inr ⟨fun p instant heq => QueueAct.noConfusion heq, ?_⟩
    rw [honly.visits_run, hmeanwhile]
    rfl

/-- What every history keeps: members can be read, and their scores are the latest of the visits
that survive. -/
structure Faithful (acts : List QueueAct) (s : VisitTable) : Prop where
  readable : s.Readable
  score : ∀ p : Inquiry, IsLatest (Survives acts p) (s.scoreOf? p.member)

theorem Faithful.nil : Faithful [] .empty where
  readable := .empty
  score _ _ := not_survives_nil

/-- A visit raises the score of its own inquiry, windows aside. -/
theorem Faithful.touched {acts : List QueueAct} {s : VisitTable} (h : Faithful acts s) (p : Inquiry)
    (instant : Time.Instant) :
    Faithful (acts ++ [.touched p instant]) (s.upsert p.member instant.seconds) where
  readable := h.readable.upsert p instant.seconds
  score q := by
    rw [VisitTable.scoreOf?_upsert]
    obtain hmember | hmember := Decidable.em (p.member = q.member)
    · rw [if_pos hmember]
      have hsame : p.withoutWindow = q.withoutWindow := Inquiry.member_eq_iff.1 hmember
      refine ((h.score q).raised instant.seconds).congr fun second => survives_snoc_iff.trans ?_
      constructor
      · rintro (⟨p', instant', heq, -, rfl⟩ | ⟨hsurvives, -⟩)
        · cases heq
          exact .inl rfl
        · exact .inr hsurvives
      · rintro (rfl | hsurvives)
        · exact .inl ⟨p, instant, rfl, hsame, rfl⟩
        · exact .inr ⟨hsurvives, fun e he => by cases he⟩
    · rw [if_neg hmember]
      have hother : p.withoutWindow ≠ q.withoutWindow := mt Inquiry.member_eq_iff.2 hmember
      refine (h.score q).congr fun second => survives_snoc_iff.trans ?_
      constructor
      · rintro (⟨p', instant', heq, hq, -⟩ | ⟨hsurvives, -⟩)
        · cases heq
          exact absurd hq hother
        · exact hsurvives
      · intro hsurvives
        exact .inr ⟨hsurvives, fun e he => by cases he⟩

/-- Visits that are too old for one of the expiries are gone, and the others count as before. -/
theorem Faithful.expired {acts : List QueueAct} {act : QueueAct} {s : VisitTable}
    (h : Faithful acts s) (hact : ∀ p instant, act ≠ .touched p instant) :
    Faithful (acts ++ [act]) (s.dropAll (act.expiries.map fun e => oldestKept e.1 e.2)) where
  readable := h.readable.dropAll _
  score q := by
    rw [VisitTable.scoreOf?_dropAll]
    refine ((h.score q).filter fun second other hsecond hle => ?_).congr fun second =>
      survives_snoc_iff.trans ?_
    · rw [List.all_eq_true] at hsecond ⊢
      exact fun bound hbound => decide_eq_true
        (Int.le_trans (of_decide_eq_true (hsecond bound hbound)) hle)
    · rw [or_iff_right fun ⟨p, instant, heq, _⟩ => hact p instant heq]
      refine and_congr_right fun hsurvives => ?_
      have hbounds := hsurvives.bounds
      simp [oldestKept_le_iff hbounds.1 hbounds.2]

/-- The score of an inquiry is the latest second in which it was visited and which no later expiry
was too late for. -/
theorem faithful_of_history {start t : Tables} {acts : List QueueAct}
    (hstart : start.visits = .empty) (h : History start acts t) : Faithful acts t.visits := by
  induction h with
  | nil =>
    rw [hstart]
    exact .nil
  | snoc h hact hpermits ih =>
    obtain ⟨p, instant, rfl, hvisits⟩ | ⟨hother, hvisits⟩ := hact.visits_run ih.readable hpermits
    · rw [hvisits]
      exact ih.touched p instant
    · rw [hvisits]
      exact ih.expired hother

/-- After any history the queue tells of each inquiry the latest second in which it was visited and
which no later expiry was too late for. It holds no member twice, and none that is no inquiry. -/
theorem lastVisit_of_history {start t : Tables} {acts : List QueueAct}
    (hstart : start.visits = .empty) (h : History start acts t) :
    (∀ (p : Inquiry) (score : Option Int),
      (∃ exchanges, (VisitQueue.lastVisit p).run.Ends exchanges (.ok score) ∧
        t.Permits exchanges) ↔ IsLatest (Survives acts p) score) ∧
      (t.visits.visits.map (·.1)).Nodup ∧ t.visits.Readable := by
  have hfaithful := faithful_of_history hstart h
  refine ⟨fun p score => ⟨?_, fun hlatest => ?_⟩, t.visits.ascending.nodup, hfaithful.readable⟩
  · rintro ⟨exchanges, hends, hpermits⟩
    obtain rfl := Work.ends_call_iff.1 (Work.ends_fromTable_ok_iff.1 hends)
    obtain rfl : score = t.visits.scoreOf? p.member := hpermits.1
    exact hfaithful.score p
  · obtain rfl := hlatest.unique (hfaithful.score p)
    exact ⟨[⟨.visitScore p.member, .ok (t.visits.scoreOf? p.member)⟩],
      Work.ends_fromTable_ok_iff.2 (Work.ends_call_iff.2 rfl), rfl, trivial⟩

/-- A later touch at an earlier second, a pass and an expiry at its very edge leave the first. -/
theorem lastVisit_of_history_sample :
    ∃ (p : Inquiry) (late early now : Time.Instant) (t : Tables),
      late.seconds = 100 ∧ early.seconds = 90 ∧ now.seconds = 140 ∧
      History {} [.touched p late, .touched { p with window := some ⟨1, 2⟩ } early,
        .passed ⟨2, 0⟩ 1 late (fun _ => pure ()) [], .expired now 40] t ∧
      IsLatest (Survives [.touched p late, .touched { p with window := some ⟨1, 2⟩ } early,
        .passed ⟨2, 0⟩ 1 late (fun _ => pure ()) [], .expired now 40] p) (some 100) := by
  let p : Inquiry := .of "alice" .ethereum
  let instant (n : Nat) (h : n < 1000) : Time.Instant :=
    ⟨n, 0, by simp only [Time.firstSecond]; omega, by simp only [Time.lastSecond]; omega,
      by decide, fun hleap => absurd hleap (by decide)⟩
  let late := instant 100 (by decide)
  let early := instant 90 (by decide)
  let now := instant 140 (by decide)
  clear_value p
  have hlate : (QueueAct.touched p late).CarriedOut [⟨.upsertVisit p.member 100, .ok ()⟩] :=
    QueueAct.carriedOut_touched_iff.2 rfl
  have hmember : ({ p with window := some ⟨1, 2⟩ } : Inquiry).member = p.member :=
    Inquiry.member_eq_iff.2 rfl
  have hearly : (QueueAct.touched { p with window := some ⟨1, 2⟩ } early).CarriedOut
      [⟨.upsertVisit p.member 90, .ok ()⟩] :=
    QueueAct.carriedOut_touched_iff.2 (by rw [hmember]; rfl)
  have htouched := ((History.nil : History {} [] {}).snoc hlate ⟨trivial, trivial⟩).snoc hearly
    ⟨trivial, trivial⟩
  generalize ht : Tables.run _ _ = t at htouched
  have hraised : ∀ member, upsertVisit member 90 (upsertVisit member 100 []) = [(member, 100)] := by
    intro member
    rw [upsertVisit, upsertVisit, if_neg (String.lt_irrefl member), if_pos rfl]
    rfl
  have hvisits : t.visits.visits = [(p.member, 100)] := by
    rw [← ht]
    simp only [Tables.run_cons, Tables.run_nil, Tables.after, VisitTable.upsert]
    exact hraised p.member
  have hpage : t.visits.membersAfter none (oldestKept late 0) 2 = [(p.member, 100)] := by
    rw [VisitTable.membersAfter, hvisits]
    rfl
  have hforbears : VisitQueue.Forbears fun _ => pure () := by
    intro q t exchanges result _ hends _
    obtain ⟨rfl, rfl⟩ := ends_run_pure_iff.1 hends
    exact ⟨.nil, fun e he => by cases he⟩
  have hserved : VisitQueue.Encounter (fun _ => pure ()) p.member [] none :=
    .served p.ofMember_member (ends_run_pure_iff.2 ⟨rfl, rfl⟩)
  have hround : VisitQueue.Round (fun _ => pure ()) [(p.member, 100)] [] [] :=
    .cons (v := (p.member, 100)) hserved .nil
  have hpass : (QueueAct.passed ⟨2, 0⟩ 1 late (fun _ => pure ()) []).CarriedOut
      [VisitQueue.reading ⟨2, 0⟩ (oldestKept late 0) none (.ok [(p.member, 100)])] :=
    ⟨hforbears, ⟨_, VisitQueue.ends_passFrom_iff.2 (.last hround (.inl Nat.one_lt_two))⟩, rfl⟩
  have hexpire : (QueueAct.expired now 40).CarriedOut [⟨.dropVisitsBelow (oldestKept now 40),
      .ok (t.visits.dropBelow (oldestKept now 40)).1⟩] :=
    QueueAct.carriedOut_expired_iff.2 ⟨_, rfl⟩
  have h := (htouched.snoc hpass ⟨hpage.symm, trivial⟩).snoc hexpire ⟨rfl, trivial⟩
  refine ⟨p, late, early, now, _, rfl, rfl, rfl, h, ?_⟩
  refine ((lastVisit_of_history rfl h).1 p (some 100)).1
    ⟨[⟨.visitScore p.member, .ok (some 100)⟩],
      Work.ends_fromTable_ok_iff.2 (Work.ends_call_iff.2 rfl), ?_, trivial⟩
  have hscore : t.visits.scoreOf? p.member = some 100 :=
    VisitTable.scoreOf?_eq_some_iff.2 (by rw [hvisits]; exact List.mem_cons_self)
  change some 100 = (t.visits.dropBelow (oldestKept now 40)).2.scoreOf? p.member
  rw [VisitTable.scoreOf?_dropBelow, hscore]
  rfl

end ChainCrawl
