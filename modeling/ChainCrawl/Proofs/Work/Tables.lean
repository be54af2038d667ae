import ChainCrawl.Proofs.Proc.Run
import ChainCrawl.Proofs.Table.Record
import ChainCrawl.Table.Cursor
import ChainCrawl.Table.Visit
import ChainCrawl.Work.Request

namespace ChainCrawl

/-- The request neither reads nor changes the visits. -/
def SparesVisits : WorkRequest → Prop
  | .upsertVisit _ _ | .visitsAfter _ _ _ | .dropVisitsBelow _ | .removeVisit _ | .visitScore _
  | .visitCount => False
  | _ => True

/-- The tables that the loops share. -/
structure Tables where
  cursors : CursorTable := .empty
  records : RecordTable := .empty
  visits : VisitTable := .empty

namespace Tables

/-- The tables after an exchange. -/
def after (t : Tables) : Exchange surroundings → Tables
  | ⟨.saveCursor c, .ok _⟩ => { t with cursors := t.cursors.put c }
  | ⟨.addRecords batch, .ok _⟩ => { t with records := t.records.addBatch batch }
  | ⟨.upsertVisit member score, .ok _⟩ => { t with visits := t.visits.upsert member score }
  | ⟨.dropVisitsBelow least, .ok _⟩ => { t with visits := (t.visits.dropBelow least).2 }
  | ⟨.removeVisit member, .ok _⟩ => { t with visits := (t.visits.erase member).2 }
  | _ => t

/-- What the exchange tells of the tables is so. -/
def Allows (t : Tables) : Exchange surroundings → Prop
  | ⟨.loadCursor key network, .ok c⟩ => c = t.cursors.find? key network
  | ⟨.visitsAfter after least limit, .ok page⟩ => page = t.visits.membersAfter after least limit
  | ⟨.dropVisitsBelow least, .ok n⟩ => n = (t.visits.dropBelow least).1
  | ⟨.removeVisit member, .ok removed⟩ => removed = (t.visits.erase member).1
  | ⟨.visitScore member, .ok score⟩ => score = t.visits.scoreOf? member
  | ⟨.visitCount, .ok n⟩ => n = t.visits.size
  | _ => True

/-- The tables after exchanges, one after the other. -/
def run (t : Tables) (exchanges : List (Exchange surroundings)) : Tables :=
  exchanges.foldl after t

/-- What exchanges tell of the tables is so, for each after those before it. -/
def Permits : Tables → List (Exchange surroundings) → Prop
  | _, [] => True
  | t, e :: rest => t.Allows e ∧ (t.after e).Permits rest

variable {t : Tables}

@[simp]
theorem run_nil : t.run [] = t := rfl

@[simp]
theorem run_cons (e : Exchange surroundings) (rest : List (Exchange surroundings)) :
    t.run (e :: rest) = (t.after e).run rest := rfl

theorem run_append (first rest : List (Exchange surroundings)) :
    t.run (first ++ rest) = (t.run first).run rest := by
  simp [run]

theorem permits_append_iff {first rest : List (Exchange surroundings)} :
    t.Permits (first ++ rest) ↔ t.Permits first ∧ (t.run first).Permits rest := by
  induction first generalizing t with
  | nil => simp [Permits]
  | cons e first ih => simp [Permits, ih, and_assoc]

/-- Only a cursor whose save went well changes the cursors. -/
theorem cursors_after {e : Exchange surroundings} (h : ∀ c u, e ≠ ⟨.saveCursor c, .ok u⟩) :
    (t.after e).cursors = t.cursors := by
  unfold after
  split
  · exact absurd rfl (h _ _)
  all_goals rfl

/-- An exchange saves a cursor, or leaves the cursors alone. -/
theorem save_or_cursors_after (t : Tables) (e : Exchange surroundings) :
    (∃ c u, e = ⟨.saveCursor c, .ok u⟩) ∨ (t.after e).cursors = t.cursors := by
  by_cases hsave : ∃ c u, e = ⟨.saveCursor c, .ok u⟩
  · exact .inl hsave
  · exact .inr (cursors_after fun c u heq => hsave ⟨c, u, heq⟩)

/-- Only a stored batch changes the records. -/
theorem records_after {e : Exchange surroundings} (h : ∀ batch, e.1 ≠ .addRecords batch) :
    (t.after e).records = t.records := by
  unfold after
  split
  · rfl
  · exact absurd rfl (h _)
  all_goals rfl

/-- An exchange about anything but the visits leaves them alone. -/
theorem visits_after {e : Exchange surroundings} (h : SparesVisits e.1) :
    (t.after e).visits = t.visits := by
  unfold after
  split
  · rfl
  · rfl
  · exact h.elim
  · exact h.elim
  · exact h.elim
  · rfl

theorem visits_run {exchanges : List (Exchange surroundings)}
    (h : ∀ e ∈ exchanges, SparesVisits e.1) : (t.run exchanges).visits = t.visits := by
  induction exchanges generalizing t with
  | nil => rfl
  | cons e rest ih =>
    rw [run_cons, ih fun e he => h e (List.mem_cons_of_mem _ he)]
    exact visits_after (h e List.mem_cons_self)

theorem cursors_run {exchanges : List (Exchange surroundings)}
    (h : ∀ e ∈ exchanges, ∀ c u, e ≠ ⟨.saveCursor c, .ok u⟩) :
    (t.run exchanges).cursors = t.cursors := by
  induction exchanges generalizing t with
  | nil => rfl
  | cons e rest ih =>
    rw [run_cons, ih fun e he => h e (List.mem_cons_of_mem _ he)]
    exact cursors_after (h e List.mem_cons_self)

theorem records_run {exchanges : List (Exchange surroundings)}
    (h : ∀ e ∈ exchanges, ∀ batch, e.1 ≠ .addRecords batch) :
    (t.run exchanges).records = t.records := by
  induction exchanges generalizing t with
  | nil => rfl
  | cons e rest ih =>
    rw [run_cons, ih fun e he => h e (List.mem_cons_of_mem _ he)]
    exact records_after (h e List.mem_cons_self)

/-- A record stays in the table under its identifier. -/
theorem isSome_get?_after {identifier : String} (h : (t.records.get? identifier).isSome)
    (e : Exchange surroundings) : ((t.after e).records.get? identifier).isSome := by
  by_cases hbatch : ∃ batch u, e = ⟨.addRecords batch, .ok u⟩
  · obtain ⟨batch, u, rfl⟩ := hbatch
    exact RecordTable.isSome_get?_addBatch_iff.2 (.inl h)
  · unfold after
    split
    · exact h
    · exact absurd ⟨_, _, rfl⟩ hbatch
    all_goals exact h

theorem isSome_get?_run {identifier : String} (h : (t.records.get? identifier).isSome)
    (exchanges : List (Exchange surroundings)) :
    ((t.run exchanges).records.get? identifier).isSome := by
  induction exchanges generalizing t with
  | nil => exact h
  | cons e rest ih => exact ih (isSome_get?_after h e)

end Tables

/-- No exchange saves a cursor. -/
def SavesNothing (exchanges : List (Exchange surroundings)) : Prop :=
  ∀ e ∈ exchanges, ∀ c, e.1 ≠ .saveCursor c

theorem SavesNothing.append {first rest : List (Exchange surroundings)}
    (hfirst : SavesNothing first) (hrest : SavesNothing rest) : SavesNothing (first ++ rest) := by
  intro e he
  obtain he | he := List.mem_append.1 he
  · exact hfirst e he
  · exact hrest e he

theorem SavesNothing.cons {e : Exchange surroundings} {rest : List (Exchange surroundings)}
    (he : ∀ c, e.1 ≠ .saveCursor c) (hrest : SavesNothing rest) : SavesNothing (e :: rest) := by
  intro x hx
  obtain rfl | hx := List.mem_cons.1 hx
  · exact he
  · exact hrest x hx

theorem SavesNothing.nil : SavesNothing [] := by
  intro e he
  cases he

theorem SavesNothing.cursors_run {exchanges : List (Exchange surroundings)}
    (h : SavesNothing exchanges) (t : Tables) : (t.run exchanges).cursors = t.cursors :=
  Tables.cursors_run fun e he c _ heq => h e he c (congrArg Sigma.fst heq)

/-- Where the only save among exchanges stands is settled by what it follows. -/
theorem SavesNothing.eq_of_append {before after body rest : List (Exchange surroundings)}
    {e save : Exchange surroundings} {c : Cursor} (hbody : SavesNothing body)
    (hrest : SavesNothing rest) (he : e.1 = .saveCursor c)
    (heq : before ++ e :: after = body ++ save :: rest) : before = body ∧ e = save := by
  induction before generalizing body with
  | nil =>
    cases body with
    | nil => exact ⟨rfl, (List.cons.inj heq).1⟩
    | cons x body =>
      obtain ⟨rfl, -⟩ := List.cons.inj heq
      exact absurd he (hbody e List.mem_cons_self c)
  | cons x before ih =>
    cases body with
    | nil =>
      obtain ⟨rfl, rfl⟩ := List.cons.inj heq
      exact absurd he (hrest e (List.mem_append_right _ List.mem_cons_self) c)
    | cons y body =>
      obtain ⟨rfl, htail⟩ := List.cons.inj heq
      obtain ⟨rfl, rfl⟩ := ih (fun z hz => hbody z (List.mem_cons_of_mem _ hz)) htail
      exact ⟨rfl, rfl⟩

instance (r : surroundings.Request) : Nonempty (surroundings.Answer r) := by
  cases r with
  | loadCursor | visitsAfter | dropVisitsBelow | removeVisit | visitScore | visitCount =>
    exact ⟨Except.error (.database "")⟩
  | saveCursor | addRecords | upsertVisit => exact ⟨Except.ok ()⟩
  | headHeight | fetch | recordOf | profile => exact ⟨Except.error (.unavailable "")⟩
  | now => exact ⟨(default : Time.Instant)⟩
  | ticks => exact ⟨(0 : Nat)⟩
  | sleep | log | yieldTurn => exact ⟨()⟩
  | stopRequested => exact ⟨true⟩
  | pause => exact ⟨PauseEnd.elapsed⟩

/-- The tables can answer every request. -/
theorem Tables.exists_allowed (t : Tables) (r : WorkRequest) : ∃ a : r.Answer, t.Allows ⟨r, a⟩ := by
  have hanswer : Nonempty r.Answer :=
    (inferInstance : Nonempty (surroundings.Answer (r : surroundings.Request)))
  obtain ⟨a⟩ := hanswer
  cases r with
  | loadCursor key network => exact ⟨.ok (t.cursors.find? key network), rfl⟩
  | visitsAfter after least limit => exact ⟨.ok (t.visits.membersAfter after least limit), rfl⟩
  | dropVisitsBelow least => exact ⟨.ok (t.visits.dropBelow least).1, rfl⟩
  | removeVisit member => exact ⟨.ok (t.visits.erase member).1, rfl⟩
  | visitScore member => exact ⟨.ok (t.visits.scoreOf? member), rfl⟩
  | visitCount => exact ⟨.ok t.visits.size, rfl⟩
  | _ => exact ⟨a, trivial⟩

namespace Work

variable {α : Type} {exchanges : List (Exchange surroundings)}

theorem ends_call_iff {r : WorkRequest} {a : r.Answer} :
    (call r).Ends exchanges a ↔ exchanges = [⟨r, a⟩] := by
  refine Iff.trans Proc.ends_ask_iff ?_
  constructor
  · rintro ⟨answer, rest, rfl, h⟩
    obtain ⟨rfl, rfl⟩ := Proc.ends_done_iff.1 h
    rfl
  · rintro rfl
    exact ⟨a, [], rfl, .nil _⟩

theorem ends_lift_iff {p : Work α} {b : Fallible α} :
    (ExceptT.lift p : Crawl α).run.Ends exchanges b ↔ ∃ a, p.Ends exchanges a ∧ b = .ok a := by
  refine Iff.trans (Proc.ends_bind_iff (p := p)) ?_
  constructor
  · rintro ⟨a, first, rest, rfl, hfirst, hrest⟩
    obtain ⟨rfl, rfl⟩ := Proc.ends_done_iff.1 hrest
    exact ⟨a, by simpa using hfirst, rfl⟩
  · rintro ⟨a, h, rfl⟩
    exact ⟨a, exchanges, [], by simp, h, .nil _⟩

theorem ends_ask_iff {r : WorkRequest} {b : Fallible r.Answer} :
    (ask r).run.Ends exchanges b ↔ ∃ a : r.Answer, exchanges = [⟨r, a⟩] ∧ b = .ok a := by
  simp only [ask, ends_lift_iff, ends_call_iff]

theorem ends_run_ask_bind_iff {β : Type} {r : WorkRequest} {f : r.Answer → Crawl β}
    {b : Fallible β} :
    (ask r >>= f).run.Ends exchanges b ↔
      ∃ (a : r.Answer) (rest : List (Exchange surroundings)),
        exchanges = ⟨r, a⟩ :: rest ∧ (f a).run.Ends rest b := by
  rw [Proc.ends_run_bind_iff]
  constructor
  · rintro (⟨a, first, rest, rfl, hfirst, hrest⟩ | ⟨e, h, -⟩)
    · obtain ⟨answer, rfl, heq⟩ := ends_ask_iff.1 hfirst
      cases heq
      exact ⟨a, rest, rfl, hrest⟩
    · obtain ⟨answer, -, heq⟩ := ends_ask_iff.1 h
      cases heq
  · rintro ⟨a, rest, rfl, h⟩
    exact .inl ⟨a, [⟨r, a⟩], rest, rfl, ends_ask_iff.2 ⟨a, rfl, rfl⟩, h⟩

/-- If the tables always allow an answer that is admitted, every procedure has a run to its end with
such answers. -/
theorem exists_permitted {Admitted : Exchange surroundings → Prop}
    (hanswer : ∀ (t : Tables) (r : WorkRequest), ∃ a : r.Answer,
      t.Allows ⟨r, a⟩ ∧ Admitted ⟨r, a⟩) (p : Work α) (t : Tables) :
    ∃ exchanges a, p.Ends exchanges a ∧ t.Permits exchanges ∧ ∀ x ∈ exchanges, Admitted x := by
  induction p generalizing t with
  | done a => exact ⟨[], a, .nil _, trivial, by simp⟩
  | ask r next ih =>
    obtain ⟨answer, hallows, hadmitted⟩ := hanswer t r
    obtain ⟨exchanges, a, hends, hpermits, hrest⟩ := ih answer (t.after ⟨r, answer⟩)
    refine ⟨⟨r, answer⟩ :: exchanges, a, .ask hends, ⟨hallows, hpermits⟩, ?_⟩
    intro x hx
    obtain rfl | hx := List.mem_cons.1 hx
    · exact hadmitted
    · exact hrest x hx

/-- A report makes one exchange, and nothing hangs on it. -/
theorem ends_report_iff {level : LogLevel} {message : String} {fields : List (String × String)}
    {u : Unit} :
    (report level message fields).Ends exchanges u ↔
      exchanges = [⟨.log ⟨level, message, fields⟩, ()⟩] :=
  ends_call_iff

/-- A call of a table ends as the table answers. -/
theorem ends_fromTable_iff {p : Work (Except TableFailure α)} {b : Fallible α} :
    (fromTable p).run.Ends exchanges b ↔
      ∃ a, p.Ends exchanges a ∧ b = a.mapError TableFailure.toFailure := by
  refine Iff.trans (Proc.ends_bind_iff (p := p)) ?_
  constructor
  · rintro ⟨a, first, rest, rfl, hfirst, hrest⟩
    obtain ⟨rfl, rfl⟩ := Proc.ends_done_iff.1 hrest
    exact ⟨a, by simpa using hfirst, rfl⟩
  · rintro ⟨a, h, rfl⟩
    exact ⟨a, exchanges, [], by simp, h, .nil _⟩

theorem ends_fromTable_ok_iff {p : Work (Except TableFailure α)} {a : α} :
    (fromTable p).run.Ends exchanges (.ok a) ↔ p.Ends exchanges (.ok a) := by
  rw [ends_fromTable_iff]
  constructor
  · rintro ⟨answer, h, hok⟩
    cases answer with
    | ok value =>
      obtain rfl : a = value := Except.ok.inj hok
      exact h
    | error e => cases hok
  · intro h
    exact ⟨.ok a, h, rfl⟩

end Work

end ChainCrawl
