import ChainCrawl.Proofs.Config.Check
import Mathlib.Data.List.Induction

namespace ChainCrawl

namespace Roster

/-- The roster has what these sources have taken, no more and no less. -/
structure Holds (roster : Roster) (earlier : List Source) : Prop where
  explorer?_eq : ∀ network, roster.explorer? network = Source.explorerOn? earlier network
  mem_keys_iff : ∀ key network, (key, network) ∈ roster.keys ↔
    ∃ e ∈ earlier, e.key = key ∧ e.network = network

variable {roster : Roster} {earlier sources : List Source}

theorem holds_nil : Holds {} [] where
  explorer?_eq _ := rfl
  mem_keys_iff _ _ := by simp

theorem explorerOn?_append_singleton (earlier : List Source) (s : Source) (network : Network) :
    Source.explorerOn? (earlier ++ [s]) network = (Source.explorerOn? earlier network).or
      (if s.network = network then some s.explorerUrl else none) := by
  unfold Source.explorerOn?
  rw [List.find?_append]
  cases earlier.find? (·.network = network) with
  | some e => rfl
  | none => by_cases h : s.network = network <;> simp [h]

theorem explorer?_add (roster : Roster) (s : Source) (network : Network) :
    (roster.add s).explorer? network = (roster.explorer? network).or
      (if s.network = network then some s.explorerUrl else none) := by
  unfold add explorer?
  cases hused : roster.explorers.lookup s.network with
  | some used =>
    by_cases hnetwork : s.network = network
    · subst hnetwork
      simp [hused]
    · simp [hnetwork]
  | none =>
    by_cases hnetwork : s.network = network
    · subst hnetwork
      simp [hused]
    · have hne : (network == s.network) = false := beq_false_of_ne (Ne.symm hnetwork)
      simp [hnetwork, List.lookup_cons, hne]

theorem Holds.add (h : roster.Holds earlier) (s : Source) :
    (roster.add s).Holds (earlier ++ [s]) where
  explorer?_eq network := by
    rw [explorer?_add, explorerOn?_append_singleton, h.explorer?_eq]
  mem_keys_iff key network := by
    simp only [Roster.add, List.mem_cons, h.mem_keys_iff, List.mem_append, List.not_mem_nil,
      or_false, Prod.mk.injEq]
    constructor
    · rintro (⟨rfl, rfl⟩ | ⟨e, he, hsame⟩)
      · exact ⟨s, .inr rfl, rfl, rfl⟩
      · exact ⟨e, .inl he, hsame⟩
    · rintro ⟨e, he | rfl, rfl, rfl⟩
      · exact .inr ⟨e, he, rfl, rfl⟩
      · exact .inl ⟨rfl, rfl⟩

/-- A source is let in or refused as its rules say of the sources before it. -/
theorem Holds.enlist_eq (h : roster.Holds earlier) (s : Source) :
    roster.enlist s = match s.fault? earlier with
      | some fault => .error fault
      | none => .ok (roster.add s) := by
  have hkey : (s.key, s.network) ∈ roster.keys ↔
      (earlier.any fun e => e.key = s.key && e.network = s.network) = true := by
    simp [h.mem_keys_iff]
  simp only [enlist, Source.fault?, h.explorer?_eq, hkey]
  split_ifs <;> rfl

/-- The check of all sources finds the fault that their rules tell. -/
theorem Holds.enlistAll_eq_error_iff (h : roster.Holds earlier) {fault : ConfigFault} :
    roster.enlistAll sources = .error fault ↔
      Source.firstFault? earlier sources = some fault := by
  induction sources generalizing roster earlier with
  | nil => simp [enlistAll, Source.firstFault?]
  | cons s rest ih =>
    simp only [enlistAll, Source.firstFault?, h.enlist_eq]
    cases s.fault? earlier with
    | some fault => simp
    | none => exact ih (h.add s)

end Roster

/-- The check fails with the first rule that the configuration breaks, and passes if there is none.
-/
theorem Config.check_eq_error_iff {c : Config} {fault : ConfigFault} :
    c.check = .error fault ↔ c.fault? = some fault := by
  unfold Config.check Config.fault?
  split_ifs
  · simp
  · simp
  · rw [← Roster.holds_nil.enlistAll_eq_error_iff]
    cases Roster.enlistAll {} c.sources <;> simp [Except.map]

theorem Config.check_eq_ok_iff {c : Config} : c.check = .ok () ↔ c.Valid := by
  rw [Config.Valid, Option.eq_none_iff_forall_ne_some]
  constructor
  · intro hok fault hfault
    rw [Config.check_eq_error_iff.2 hfault] at hok
    cases hok
  · intro hnone
    cases hcheck : c.check with
    | error fault => exact absurd (Config.check_eq_error_iff.1 hcheck) (hnone fault)
    | ok _ => rfl

namespace SourceFault

/-- The place of a rule in the order in which the rules are looked at. -/
def rank : SourceFault → Nat
  | otherExplorer _ => 0
  | duplicateKey => 1
  | noMinStep => 2
  | stepBelowMinStep => 3
  | negativeHeight => 4

theorem rank_lt (fault : SourceFault) : fault.rank < 5 := by
  cases fault <;> simp [rank]

/-- Only the rule of the explorer can be broken in more than one way. -/
theorem eq_or_of_rank_eq {fault other : SourceFault} (h : fault.rank = other.rank) :
    fault = other ∨ ∃ used used', fault = .otherExplorer used ∧ other = .otherExplorer used' := by
  cases fault <;> cases other <;> simp_all [rank]

end SourceFault

namespace Source

/-- A source breaks a rule, given the sources before it. -/
def Breaks (earlier : List Source) (s : Source) : SourceFault → Prop
  | .otherExplorer used => ∃ e ∈ earlier,
    e.network = s.network ∧ e.explorerUrl = used ∧ used ≠ s.explorerUrl
  | .duplicateKey => ∃ e ∈ earlier, e.key = s.key ∧ e.network = s.network
  | .noMinStep => s.minStep < 1
  | .stepBelowMinStep => s.step < s.minStep
  | .negativeHeight => s.confirmations < 0 ∨ s.startHeight < 0

/-- A source keeps the rules that are looked at before a place. -/
def KeepsBefore (earlier : List Source) (s : Source) (place : Nat) : Prop :=
  ∀ fault, fault.rank < place → ¬ s.Breaks earlier fault

/-- A source breaks a rule and none of those that are looked at before. -/
structure FirstBroken (earlier : List Source) (s : Source) (fault : SourceFault) : Prop where
  breaks : s.Breaks earlier fault
  first : s.KeepsBefore earlier fault.rank

/-- Every source keeps all rules, given the sources before it. -/
def AllKeep (sources : List Source) : Prop :=
  ∀ before s after, sources = before ++ s :: after → ∀ fault, ¬ s.Breaks before fault

/-- Sources on one network use one explorer. -/
def OneExplorer (sources : List Source) : Prop :=
  ∀ s ∈ sources, ∀ t ∈ sources, s.network = t.network → s.explorerUrl = t.explorerUrl

/-- No two sources have the same key on the same network. -/
def OwnKeys (sources : List Source) : Prop :=
  sources.Pairwise fun s t => ¬ (s.key = t.key ∧ s.network = t.network)

variable {earlier before sources : List Source} {s : Source} {fault : SourceFault}

/-- What the explorer found for a network is that of a source on it. -/
theorem exists_of_explorerOn? {network : Network} {used : String}
    (h : explorerOn? earlier network = some used) :
    ∃ e ∈ earlier, e.network = network ∧ e.explorerUrl = used := by
  obtain ⟨e, hfind, rfl⟩ := Option.map_eq_some_iff.1 h
  have hnetwork : e.network = network := by simpa using List.find?_some hfind
  exact ⟨e, List.mem_of_find?_eq_some hfind, hnetwork, rfl⟩

/-- Where the sources before agree, the first one on the network speaks for all of them. -/
theorem explorerOn?_of_mem (hone : OneExplorer earlier) {e : Source} (he : e ∈ earlier) :
    explorerOn? earlier e.network = some e.explorerUrl := by
  cases hused : explorerOn? earlier e.network with
  | none =>
    have hnone : ∀ x ∈ earlier, x.network ≠ e.network := by
      simpa [explorerOn?] using hused
    exact absurd rfl (hnone e he)
  | some used =>
    obtain ⟨x, hx, hnetwork, rfl⟩ := exists_of_explorerOn? hused
    rw [hone x hx e he hnetwork]

theorem breaks_otherExplorer_iff (hone : OneExplorer earlier) {used : String} :
    s.Breaks earlier (.otherExplorer used) ↔
      (explorerOn? earlier s.network).getD s.explorerUrl = used ∧ used ≠ s.explorerUrl := by
  constructor
  · rintro ⟨e, he, hnetwork, rfl, hne⟩
    rw [← hnetwork, explorerOn?_of_mem hone he]
    exact ⟨rfl, hne⟩
  · rintro ⟨hused, hne⟩
    cases hfound : explorerOn? earlier s.network with
    | none => exact absurd (by simpa [hfound] using hused.symm) hne
    | some found =>
      obtain rfl : found = used := by simpa [hfound] using hused
      obtain ⟨e, he, hnetwork, hurl⟩ := exists_of_explorerOn? hfound
      exact ⟨e, he, hnetwork, hurl, hne⟩

theorem breaks_duplicateKey_iff : s.Breaks earlier .duplicateKey ↔
    (earlier.any fun e => e.key = s.key && e.network = s.network) = true := by
  simp [Breaks]

theorem breaks_negativeHeight_iff : s.Breaks earlier .negativeHeight ↔
    (s.confirmations < 0 || s.startHeight < 0) = true := by
  simp [Breaks]

theorem keepsBefore_zero : s.KeepsBefore earlier 0 :=
  fun _ hrank => absurd hrank (Nat.not_lt_zero _)

/-- One rule further: it is the only one at its place, unless that is the place of the explorer. -/
theorem KeepsBefore.succ (fault : SourceFault) (h : s.KeepsBefore earlier fault.rank)
    (hrank : 0 < fault.rank) (hkeeps : ¬ s.Breaks earlier fault) :
    s.KeepsBefore earlier (fault.rank + 1) := by
  intro other hother
  obtain hlt | heq := Nat.lt_succ_iff_lt_or_eq.1 hother
  · exact h other hlt
  · obtain rfl | ⟨used, used', rfl, rfl⟩ := SourceFault.eq_or_of_rank_eq heq
    · exact hkeeps
    · exact absurd hrank (Nat.lt_irrefl 0)

theorem keepsBefore_one (hone : OneExplorer earlier)
    (h : (explorerOn? earlier s.network).getD s.explorerUrl = s.explorerUrl) :
    s.KeepsBefore earlier 1 := by
  intro fault hrank hbroken
  cases fault with
  | otherExplorer used =>
    obtain ⟨hused, hne⟩ := (breaks_otherExplorer_iff hone).1 hbroken
    exact hne (hused.symm.trans h)
  | _ => exact absurd hrank (by decide)

/-- The fault of a source is the first rule that it breaks, and it has none if it breaks none. -/
theorem fault?_spec (hone : OneExplorer earlier) (s : Source) :
    match s.fault? earlier with
    | some fault => s.FirstBroken earlier fault
    | none => ∀ fault, ¬ s.Breaks earlier fault := by
  unfold fault?
  dsimp only
  split_ifs with hexplorer hkey hminStep hstep hsign
  · exact ⟨(breaks_otherExplorer_iff hone).2 ⟨rfl, hexplorer⟩, keepsBefore_zero⟩
  all_goals have hbefore := keepsBefore_one hone (not_not.1 hexplorer)
  · exact ⟨breaks_duplicateKey_iff.2 hkey, hbefore⟩
  all_goals have hkeys := hbefore.succ .duplicateKey Nat.one_pos (mt breaks_duplicateKey_iff.1 hkey)
  · exact ⟨hminStep, hkeys⟩
  all_goals have hleast := hkeys.succ .noMinStep Nat.two_pos hminStep
  · exact ⟨hstep, hleast⟩
  all_goals have hsteps := hleast.succ .stepBelowMinStep (Nat.succ_pos 2) hstep
  · exact ⟨breaks_negativeHeight_iff.2 hsign, hsteps⟩
  · have hall := hsteps.succ .negativeHeight (Nat.succ_pos 3) (mt breaks_negativeHeight_iff.1 hsign)
    exact fun fault => hall fault fault.rank_lt

/-- A source has at most one first broken rule, also where it is the explorer's: the sources before
agree on that one. -/
theorem FirstBroken.unique (hone : OneExplorer earlier) {other : SourceFault}
    (h : s.FirstBroken earlier fault) (h' : s.FirstBroken earlier other) : fault = other := by
  have hle : ¬ fault.rank < other.rank := fun hlt => h'.first fault hlt h.breaks
  have hge : ¬ other.rank < fault.rank := fun hlt => h.first other hlt h'.breaks
  have hrank : fault.rank = other.rank := by omega
  obtain heq | ⟨used, used', rfl, rfl⟩ := SourceFault.eq_or_of_rank_eq hrank
  · exact heq
  · have hused := ((breaks_otherExplorer_iff hone).1 h.breaks).1
    have hused' := ((breaks_otherExplorer_iff hone).1 h'.breaks).1
    rw [← hused, ← hused']

theorem fault?_eq_some_iff (hone : OneExplorer earlier) :
    s.fault? earlier = some fault ↔ s.FirstBroken earlier fault := by
  have hspec := fault?_spec hone s
  cases hfault : s.fault? earlier with
  | none =>
    rw [hfault] at hspec
    exact ⟨nofun, fun h => absurd h.breaks (hspec fault)⟩
  | some found =>
    rw [hfault] at hspec
    rw [Option.some.injEq]
    exact ⟨fun heq => heq ▸ hspec, hspec.unique hone⟩

theorem fault?_eq_none_iff (hone : OneExplorer earlier) :
    s.fault? earlier = none ↔ ∀ fault, ¬ s.Breaks earlier fault := by
  have hspec := fault?_spec hone s
  cases hfault : s.fault? earlier with
  | none =>
    rw [hfault] at hspec
    exact ⟨fun _ => hspec, fun _ => rfl⟩
  | some found =>
    rw [hfault] at hspec
    exact ⟨nofun, fun h => absurd hspec.breaks (h found)⟩

/-- What a source that breaks no rule has in common with those before it, and by itself. -/
theorem not_breaks_iff : (∀ fault, ¬ s.Breaks earlier fault) ↔
    (∀ e ∈ earlier, e.network = s.network → e.explorerUrl = s.explorerUrl) ∧
      (∀ e ∈ earlier, ¬ (e.key = s.key ∧ e.network = s.network)) ∧ s.Runnable := by
  constructor
  · intro h
    refine ⟨fun e he hnetwork => ?_, fun e he hsame => h .duplicateKey ⟨e, he, hsame⟩, ?_⟩
    · exact not_not.1 fun hne => h (.otherExplorer e.explorerUrl) ⟨e, he, hnetwork, rfl, hne⟩
    · have hminStep : ¬ s.minStep < 1 := h .noMinStep
      have hstep : ¬ s.step < s.minStep := h .stepBelowMinStep
      have hsign : ¬ (s.confirmations < 0 ∨ s.startHeight < 0) := h .negativeHeight
      exact ⟨by omega, by omega, by omega, by omega⟩
  · rintro ⟨hexplorer, hkey, hrun⟩ fault hbroken
    obtain ⟨hminStep, hstep, hconfirmations, hstart⟩ := hrun
    cases fault with
    | otherExplorer used =>
      obtain ⟨e, he, hnetwork, rfl, hne⟩ := hbroken
      exact hne (hexplorer e he hnetwork)
    | duplicateKey =>
      obtain ⟨e, he, hsame⟩ := hbroken
      exact hkey e he hsame
    | noMinStep => exact absurd hminStep (Int.not_le.2 hbroken)
    | stepBelowMinStep => exact absurd hstep (Int.not_le.2 hbroken)
    | negativeHeight =>
      have hsign : s.confirmations < 0 ∨ s.startHeight < 0 := hbroken
      omega

theorem allKeep_nil : AllKeep [] := by
  simp [AllKeep]

theorem allKeep_append_singleton : AllKeep (before ++ [s]) ↔
    AllKeep before ∧ ∀ fault, ¬ s.Breaks before fault := by
  constructor
  · intro h
    refine ⟨fun earlier t after heq => ?_, h before s [] rfl⟩
    exact h earlier t (after ++ [s]) (by simp [heq])
  · rintro ⟨hbefore, hlast⟩ earlier t after heq
    obtain rfl | ⟨after, x, rfl⟩ := after.eq_nil_or_concat
    · obtain ⟨rfl, hsame⟩ := List.append_inj' heq rfl
      obtain rfl : s = t := by simpa using hsame
      exact hlast
    · rw [List.concat_eq_append, ← List.cons_append, ← List.append_assoc] at heq
      exact hbefore earlier t after (List.append_inj' heq rfl).1

theorem oneExplorer_append_singleton : OneExplorer (before ++ [s]) ↔
    OneExplorer before ∧ ∀ e ∈ before, e.network = s.network → e.explorerUrl = s.explorerUrl := by
  simp only [OneExplorer, List.mem_append, List.mem_singleton]
  constructor
  · intro h
    exact ⟨fun e he t ht => h e (.inl he) t (.inl ht), fun e he => h e (.inl he) s (.inr rfl)⟩
  · rintro ⟨hbefore, hlast⟩ e (he | rfl) t (ht | rfl) hnetwork
    · exact hbefore e he t ht hnetwork
    · exact hlast e he hnetwork
    · exact (hlast t ht hnetwork.symm).symm
    · rfl

theorem ownKeys_append_singleton : OwnKeys (before ++ [s]) ↔
    OwnKeys before ∧ ∀ e ∈ before, ¬ (e.key = s.key ∧ e.network = s.network) := by
  simp [OwnKeys, List.pairwise_append]

/-- The rules of each source, given those before it, are rules for any two sources. -/
theorem allKeep_iff :
    AllKeep sources ↔ OneExplorer sources ∧ OwnKeys sources ∧ ∀ s ∈ sources, s.Runnable := by
  induction sources using List.reverseRecOn with
  | nil => simp [allKeep_nil, OneExplorer, OwnKeys]
  | append_singleton before s ih =>
    rw [allKeep_append_singleton, ih, not_breaks_iff, oneExplorer_append_singleton,
      ownKeys_append_singleton, List.forall_mem_append, List.forall_mem_singleton]
    tauto

theorem AllKeep.oneExplorer (h : AllKeep sources) : OneExplorer sources :=
  (allKeep_iff.1 h).1

/-- Sources that follow others have no fault exactly if all of them keep their rules. -/
theorem firstFault?_eq_none_iff (h : AllKeep earlier) :
    firstFault? earlier sources = none ↔ AllKeep (earlier ++ sources) := by
  induction sources generalizing earlier with
  | nil => simpa [firstFault?] using h
  | cons s rest ih =>
    rw [firstFault?]
    cases hfault : s.fault? earlier with
    | some fault =>
      have hbreaks := ((fault?_eq_some_iff h.oneExplorer).1 hfault).breaks
      exact ⟨nofun, fun hkeep => absurd hbreaks (hkeep earlier s rest rfl fault)⟩
    | none =>
      have hkeep : AllKeep (earlier ++ [s]) :=
        allKeep_append_singleton.2 ⟨h, (fault?_eq_none_iff h.oneExplorer).1 hfault⟩
      rw [List.append_cons earlier s rest]
      exact ih hkeep

/-- The fault of sources that follow others is the first rule broken in the first of them that
breaks one. -/
theorem firstFault?_eq_some_iff (h : AllKeep earlier) {found : ConfigFault} :
    firstFault? earlier sources = some found ↔ ∃ before s after fault,
      sources = before ++ s :: after ∧ AllKeep (earlier ++ before) ∧
        s.FirstBroken (earlier ++ before) fault ∧ found = .source s fault := by
  induction sources generalizing earlier with
  | nil => simp [firstFault?]
  | cons s rest ih =>
    rw [firstFault?]
    cases hfault : s.fault? earlier with
    | some fault =>
      have hfirst := (fault?_eq_some_iff h.oneExplorer).1 hfault
      constructor
      · rintro ⟨⟩
        exact ⟨[], s, rest, fault, rfl, by simpa using h, by simpa using hfirst, rfl⟩
      · rintro ⟨_ | ⟨_, before⟩, t, after, other, ⟨⟩, hkeep, hother, rfl⟩
        · rw [List.append_nil] at hother
          rw [hfirst.unique h.oneExplorer hother]
        · exact absurd hfirst.breaks (hkeep earlier s before rfl fault)
    | none =>
      have hnone := (fault?_eq_none_iff h.oneExplorer).1 hfault
      refine (ih (allKeep_append_singleton.2 ⟨h, hnone⟩)).trans ?_
      constructor
      · rintro ⟨before, t, after, fault, rfl, hkeep, hfirst, rfl⟩
        rw [← List.append_cons] at hkeep hfirst
        exact ⟨s :: before, t, after, fault, rfl, hkeep, hfirst, rfl⟩
      · rintro ⟨_ | ⟨_, before⟩, t, after, fault, ⟨⟩, hkeep, hfirst, rfl⟩
        · rw [List.append_nil] at hfirst
          exact absurd hfirst.breaks (hnone fault)
        · rw [List.append_cons] at hkeep hfirst
          exact ⟨before, t, after, fault, rfl, hkeep, hfirst, rfl⟩

end Source

namespace Config

/-- The rules of a configuration, told of any two sources and not of their order. -/
structure KeepsRules (c : Config) : Prop where
  one_le_pageSize : 1 ≤ c.sweep.pageSize
  one_le_retention : 1 ≤ c.sweep.retentionSecs
  one_explorer : Source.OneExplorer c.sources
  own_keys : Source.OwnKeys c.sources
  runnable : ∀ s ∈ c.sources, s.Runnable

/-- The fault that is found first: of the sweep if it has one, else the first rule that is broken in
the first source that breaks one. -/
inductive FirstFault (c : Config) : ConfigFault → Prop
  | emptyPages : c.sweep.pageSize = 0 → FirstFault c .emptyPages
  | noRetention : c.sweep.pageSize ≠ 0 → c.sweep.retentionSecs = 0 → FirstFault c .noRetention
  | source {before s after fault} : c.sweep.pageSize ≠ 0 → c.sweep.retentionSecs ≠ 0 →
    c.sources = before ++ s :: after → Source.AllKeep before → s.FirstBroken before fault →
    FirstFault c (.source s fault)

variable {c : Config} {fault : ConfigFault}

theorem fault?_eq_none_iff : c.fault? = none ↔ c.KeepsRules := by
  have hpage : c.sweep.pageSize ≠ 0 ↔ 1 ≤ c.sweep.pageSize := by grind
  have hretention : c.sweep.retentionSecs ≠ 0 ↔ 1 ≤ c.sweep.retentionSecs := by grind
  unfold fault?
  split_ifs with hempty hnone
  · exact ⟨nofun, fun h => absurd hempty (hpage.2 h.one_le_pageSize)⟩
  · exact ⟨nofun, fun h => absurd hnone (hretention.2 h.one_le_retention)⟩
  · rw [Source.firstFault?_eq_none_iff Source.allKeep_nil, List.nil_append, Source.allKeep_iff]
    exact ⟨fun ⟨hone, hkeys, hrun⟩ => ⟨hpage.1 hempty, hretention.1 hnone, hone, hkeys, hrun⟩,
      fun h => ⟨h.one_explorer, h.own_keys, h.runnable⟩⟩

theorem fault?_eq_some_iff : c.fault? = some fault ↔ c.FirstFault fault := by
  unfold fault?
  split_ifs with hempty hnone
  · constructor
    · rintro ⟨⟩
      exact .emptyPages hempty
    · rintro (_ | hpage | hpage)
      · rfl
      · exact absurd hempty hpage
      · exact absurd hempty hpage
  · constructor
    · rintro ⟨⟩
      exact .noRetention hempty hnone
    · rintro (hpage | _ | ⟨_, hretention⟩)
      · exact absurd hpage hempty
      · rfl
      · exact absurd hnone hretention
  · rw [Source.firstFault?_eq_some_iff Source.allKeep_nil]
    constructor
    · rintro ⟨before, s, after, fault, heq, hkeep, hfirst, rfl⟩
      exact .source hempty hnone heq hkeep hfirst
    · rintro (hpage | ⟨_, hretention⟩ | ⟨_, _, heq, hkeep, hfirst⟩)
      · exact absurd hpage hempty
      · exact absurd hretention hnone
      · exact ⟨_, _, _, _, heq, hkeep, hfirst, rfl⟩

/-- Every source of a valid configuration can be run, whether it is polled or not. -/
theorem Valid.runnable (h : c.Valid) {s : Source} (hs : s ∈ c.sources) : s.Runnable :=
  (fault?_eq_none_iff.1 h).runnable s hs

/-- The check passes the configurations that keep the rules and no others, and else its error is the
fault that is found first: the first rule that is broken, in the first source that breaks one. The
rules are told of any two sources and not of a place in the list. -/
theorem check_exact (c : Config) :
    (c.check = .ok () ↔ c.KeepsRules) ∧
      ∀ fault, c.check = .error fault ↔ c.FirstFault fault :=
  ⟨check_eq_ok_iff.trans fault?_eq_none_iff,
    fun _ => check_eq_error_iff.trans fault?_eq_some_iff⟩

end Config

end ChainCrawl
