import ChainCrawl.Delivery.Profile
import ChainCrawl.Proofs.Network
import ChainCrawl.Proofs.Text.Scan
import ChainCrawl.Proofs.TimedCache
import ChainCrawl.Proofs.Work.Tables

namespace ChainCrawl

open Proc

namespace Inquiry

/-- Both inquiries are after one identity, on one network and one platform or none. -/
def SameAccount (p q : Inquiry) : Prop :=
  p.network = q.network ∧ p.platform = q.platform ∧ p.identity = q.identity

/-- An inquiry of no platform is taken for one on a platform: its identity spells out the name of
the platform, a colon and the identity of the other. -/
def TakenFor (p q : Inquiry) : Prop :=
  p.network = q.network ∧ p.platform = none ∧
    ∃ platform, q.platform = some platform ∧ p.identity = platform.name ++ ":" ++ q.identity

/-- Both inquiries are told one profile. -/
def SharesProfile (p q : Inquiry) : Prop :=
  p.SameAccount q ∨ p.TakenFor q ∨ q.TakenFor p

end Inquiry

namespace Inquiry

variable {p q : Inquiry}

/-- What a key tells of an inquiry besides its network. -/
private def account (p : Inquiry) : String :=
  match p.platform with
  | some platform => platform.name ++ ":" ++ p.identity
  | none => p.identity

private theorem cacheKey_eq (p : Inquiry) : p.cacheKey = p.network.name ++ ":" ++ p.account := by
  unfold cacheKey account
  cases p.platform with
  | none => rfl
  | some platform =>
    change p.network.name ++ ":" ++ platform.name ++ ":" ++ p.identity = _
    simp only [String.append_assoc]

/-- Keys are equal for one account, and for an inquiry and one that it is taken for. -/
theorem cacheKey_eq_iff : p.cacheKey = q.cacheKey ↔ p.SharesProfile q := by
  rw [cacheKey_eq, cacheKey_eq,
    Text.append_separator_inj rfl p.network.colon_notMem_name q.network.colon_notMem_name,
    Network.name_injective.eq_iff]
  unfold SharesProfile SameAccount TakenFor account
  cases hp : p.platform with
  | none =>
    cases hq : q.platform with
    | none => simp
    | some y => simp
  | some x =>
    cases hq : q.platform with
    | none => simp [eq_comm]
    | some y =>
      have hparts : x.name ++ ":" ++ p.identity = y.name ++ ":" ++ q.identity ↔ _ :=
        Text.append_separator_inj rfl x.colon_notMem_name y.colon_notMem_name
      simp [hparts, Platform.name_injective.eq_iff]

end Inquiry

namespace Router

/-- How a profile is told, and which profiles are kept then. -/
inductive Telling (router : Router) (cache : ProfileCache) (p : Inquiry) :
    List (Exchange surroundings) → Fallible (Option Profile) × ProfileCache → Prop where
  | unserved {e : Failure} (hadapter : router.adapterOf p = .error e) :
      Telling router cache p [] (.error e, cache)
  | kept {adapter : AdapterRef} {profile : Option Profile} {now : Nat}
      (hadapter : router.adapterOf p = .ok adapter)
      (hkept : cache.get? now p.cacheKey = some profile) :
      Telling router cache p [⟨.ticks, now⟩] (.ok profile, cache)
  | failed {adapter : AdapterRef} {e : Failure} {now : Nat}
      (hadapter : router.adapterOf p = .ok adapter)
      (hkept : cache.get? now p.cacheKey = none) :
      Telling router cache p [⟨.ticks, now⟩, ⟨.profile adapter p, .error e⟩] (.error e, cache)
  | told {adapter : AdapterRef} {profile : Option Profile} {now later : Nat}
      (hadapter : router.adapterOf p = .ok adapter)
      (hkept : cache.get? now p.cacheKey = none) :
      Telling router cache p
        [⟨.ticks, now⟩, ⟨.profile adapter p, .ok profile⟩, ⟨.ticks, later⟩]
        (.ok profile, cache.insert later p.cacheKey profile)

variable {router : Router} {cache : ProfileCache} {p : Inquiry}
  {exchanges : List (Exchange surroundings)}

theorem ends_profile_iff {result : Fallible (Option Profile) × ProfileCache} :
    (router.profile cache p).Ends exchanges result ↔ Telling router cache p exchanges result := by
  unfold profile
  cases hadapter : router.adapterOf p with
  | error e =>
    constructor
    · intro h
      obtain ⟨rfl, rfl⟩ := ends_done_iff.1 h
      exact .unserved hadapter
    · intro h
      cases h with
      | unserved h =>
        rw [hadapter] at h
        cases h
        exact .nil _
      | kept h | failed h | told h =>
        rw [hadapter] at h
        cases h
  | ok adapter =>
    refine Iff.trans ends_bind_iff ?_
    constructor
    · rintro ⟨now, first, rest, rfl, hfirst, hrest⟩
      obtain rfl := Work.ends_call_iff.1 hfirst
      cases hkept : cache.get? now p.cacheKey with
      | some profile =>
        simp only [hkept] at hrest
        obtain ⟨rfl, rfl⟩ := ends_done_iff.1 hrest
        exact .kept hadapter hkept
      | none =>
        simp only [hkept] at hrest
        obtain ⟨answer, asking, more, rfl, hasking, hmore⟩ := ends_bind_iff.1 hrest
        obtain rfl := Work.ends_call_iff.1 hasking
        cases answer with
        | error e =>
          obtain ⟨rfl, rfl⟩ := ends_done_iff.1 hmore
          exact .failed hadapter hkept
        | ok profile =>
          obtain ⟨later, hlater, rfl⟩ := ends_bind_done_iff.1 hmore
          obtain rfl := Work.ends_call_iff.1 hlater
          exact .told hadapter hkept
    · intro h
      cases h with
      | unserved h =>
        rw [hadapter] at h
        cases h
      | @kept _ profile now h hkept =>
        refine ⟨now, [_], [], rfl, Work.ends_call_iff.2 rfl, ?_⟩
        simp only [hkept]
        exact .nil _
      | @failed _ e now h hkept =>
        obtain rfl : adapter = _ := Except.ok.inj (hadapter.symm.trans h)
        refine ⟨now, [_], [_], rfl, Work.ends_call_iff.2 rfl, ?_⟩
        simp only [hkept]
        exact ends_bind_iff.2 ⟨.error e, [_], [], rfl, Work.ends_call_iff.2 rfl, .nil _⟩
      | @told _ profile now later h hkept =>
        obtain rfl : adapter = _ := Except.ok.inj (hadapter.symm.trans h)
        refine ⟨now, [_], [_, _], rfl, Work.ends_call_iff.2 rfl, ?_⟩
        simp only [hkept]
        exact ends_bind_iff.2 ⟨.ok profile, [_], [_], rfl, Work.ends_call_iff.2 rfl,
          ends_bind_done_iff.2 ⟨later, Work.ends_call_iff.2 rfl, rfl⟩⟩

end Router

/-- A call about the profile of an inquiry's identity: it is asked for, with its answer, or it is to
be forgotten. -/
inductive ProfileCall where
  | asked (p : Inquiry) (answer : Fallible (Option Profile))
  | forgotten (p : Inquiry)

def ProfileCall.inquiry : ProfileCall → Inquiry
  | asked p _ | forgotten p => p

/-- The clock shows less than the lifetime of a profile. -/
def BeforeExpiry (lifetime : Nat) (exchanges : List (Exchange surroundings)) : Prop :=
  ∀ now : Nat, ⟨.ticks, now⟩ ∈ exchanges → now < lifetime

/-- What calls leave of profiles, with the adapters answering as they like, and before any profile
has outlived its time. -/
inductive ProfileHistory (router : Router) (lifetime : Nat) :
    List ProfileCall → ProfileCache → Prop where
  | nil : ProfileHistory router lifetime [] (.empty lifetime)
  | asked {calls : List ProfileCall} {cache cache' : ProfileCache} {p : Inquiry}
      {exchanges : List (Exchange surroundings)} {answer : Fallible (Option Profile)}
      (h : ProfileHistory router lifetime calls cache)
      (hends : (router.profile cache p).Ends exchanges (answer, cache'))
      (hclock : BeforeExpiry lifetime exchanges) :
      ProfileHistory router lifetime (calls ++ [.asked p answer]) cache'
  | forgotten {calls : List ProfileCall} {cache : ProfileCache}
      (h : ProfileHistory router lifetime calls cache) (p : Inquiry) :
      ProfileHistory router lifetime (calls ++ [.forgotten p]) (Router.forgetProfile cache p).2

/-- A call for an inquiry like this one was answered with the profile, and none like it was
forgotten since. -/
def KeptSince (alike : Inquiry → Inquiry → Prop) (calls : List ProfileCall) (p : Inquiry)
    (profile : Option Profile) : Prop :=
  ∃ (before after : List ProfileCall) (q : Inquiry),
    calls = before ++ .asked q (.ok profile) :: after ∧ alike q p ∧
      ∀ r, .forgotten r ∈ after → ¬ alike r p

section KeptSince

variable {alike : Inquiry → Inquiry → Prop} {calls : List ProfileCall} {call : ProfileCall}
  {p : Inquiry} {profile : Option Profile}

theorem not_keptSince_nil : ¬ KeptSince alike [] p profile := by
  rintro ⟨before, after, q, heq, -⟩
  simp at heq

/-- A further call tells the profile itself, or leaves what was kept unless that is forgotten. -/
theorem keptSince_snoc_iff :
    KeptSince alike (calls ++ [call]) p profile ↔
      (∃ q, call = .asked q (.ok profile) ∧ alike q p) ∨
      KeptSince alike calls p profile ∧ ∀ r, call = .forgotten r → ¬ alike r p := by
  constructor
  · rintro ⟨before, after, q, heq, hq, hafter⟩
    obtain rfl | ⟨after, last, rfl⟩ := after.eq_nil_or_concat
    · obtain ⟨-, hcall⟩ := List.append_inj' heq rfl
      exact .inl ⟨q, (List.cons.inj hcall).1, hq⟩
    · rw [List.concat_eq_append] at heq hafter
      have hsplit : calls ++ [call] = (before ++ .asked q (.ok profile) :: after) ++ [last] := by
        rw [heq, List.append_assoc, List.cons_append]
      obtain ⟨rfl, hcall⟩ := List.append_inj' hsplit rfl
      obtain rfl := (List.cons.inj hcall).1
      refine .inr ⟨⟨before, after, q, rfl, hq, fun r hr => ?_⟩, fun r hr => ?_⟩
      · exact hafter r (List.mem_append_left _ hr)
      · exact hafter r (hr ▸ List.mem_append_right _ List.mem_cons_self)
  · rintro (⟨q, rfl, hq⟩ | ⟨⟨before, after, q, rfl, hq, hafter⟩, hcall⟩)
    · exact ⟨calls, [], q, rfl, hq, fun r hr => by cases hr⟩
    · refine ⟨before, after ++ [call], q, by simp, hq, fun r hr => ?_⟩
      obtain hr | hr := List.mem_append.1 hr
      · exact hafter r hr
      · exact hcall r (List.mem_singleton.1 hr).symm

/-- What is kept hangs only on how the inquiries of the calls compare with this one. -/
theorem keptSince_congr {other : Inquiry → Inquiry → Prop}
    (h : ∀ call ∈ calls, alike call.inquiry p ↔ other call.inquiry p) :
    KeptSince alike calls p profile ↔ KeptSince other calls p profile := by
  refine exists_congr fun before => exists_congr fun after => exists_congr fun q =>
    and_congr_right ?_
  rintro rfl
  refine and_congr (h (.asked q (.ok profile)) (by simp)) ?_
  refine forall_congr' fun r => imp_congr_right fun hr => not_congr ?_
  exact h (.forgotten r) (by simp [hr])

end KeptSince

/-- The profiles in the cache are the ones that calls told and that were not forgotten since. -/
structure ProfileCache.Recalls (cache : ProfileCache) (lifetime : Nat) (calls : List ProfileCall) :
    Prop where
  lifetime_eq : cache.lifetime = lifetime
  kept_iff : ∀ p profile, cache.kept? p.cacheKey = some profile ↔
    KeptSince Inquiry.SharesProfile calls p profile

namespace ProfileCache.Recalls

variable {cache : ProfileCache} {lifetime : Nat} {calls : List ProfileCall}

theorem empty (lifetime : Nat) : Recalls (.empty lifetime) lifetime [] where
  lifetime_eq := rfl
  kept_iff p profile := by simp [not_keptSince_nil]

theorem get?_eq_some_iff (h : Recalls cache lifetime calls) {now : Nat} (hnow : now < lifetime)
    {p : Inquiry} {profile : Option Profile} :
    cache.get? now p.cacheKey = some profile ↔
      KeptSince Inquiry.SharesProfile calls p profile := by
  rw [TimedCache.get?_of_lt (h.lifetime_eq ▸ hnow), h.kept_iff]

theorem failed (h : Recalls cache lifetime calls) (q : Inquiry) (e : Failure) :
    Recalls cache lifetime (calls ++ [.asked q (.error e)]) where
  lifetime_eq := h.lifetime_eq
  kept_iff p profile := by
    rw [h.kept_iff, keptSince_snoc_iff]
    simp

/-- A profile that is told from the cache stays there. -/
theorem kept (h : Recalls cache lifetime calls) {q : Inquiry} {profile : Option Profile}
    (hkept : KeptSince Inquiry.SharesProfile calls q profile) :
    Recalls cache lifetime (calls ++ [.asked q (.ok profile)]) where
  lifetime_eq := h.lifetime_eq
  kept_iff p other := by
    rw [keptSince_snoc_iff, ← h.kept_iff]
    constructor
    · intro hother
      exact .inr ⟨hother, fun r hr => by cases hr⟩
    · rintro (⟨q', heq, hq⟩ | ⟨hother, -⟩)
      · cases heq
        rw [← Inquiry.cacheKey_eq_iff.2 hq]
        exact (h.kept_iff q profile).2 hkept
      · exact hother

/-- A profile that an adapter tells is kept for the inquiries that share it. -/
theorem told (h : Recalls cache lifetime calls) {q : Inquiry}
    (hnone : ∀ profile, ¬ KeptSince Inquiry.SharesProfile calls q profile)
    (now : Nat) (profile : Option Profile) :
    Recalls (cache.insert now q.cacheKey profile) lifetime
      (calls ++ [.asked q (.ok profile)]) where
  lifetime_eq := h.lifetime_eq
  kept_iff p other := by
    rw [TimedCache.kept?_insert, keptSince_snoc_iff]
    split
    · rename_i hkey
      have hnothing : ¬ KeptSince Inquiry.SharesProfile calls p other := by
        rw [← h.kept_iff, ← hkey, h.kept_iff]
        exact hnone other
      constructor
      · rintro ⟨⟩
        exact .inl ⟨q, rfl, Inquiry.cacheKey_eq_iff.1 hkey⟩
      · rintro (⟨q', heq, -⟩ | ⟨hother, -⟩)
        · cases heq
          rfl
        · exact absurd hother hnothing
    · rename_i hkey
      rw [h.kept_iff]
      constructor
      · intro hother
        exact .inr ⟨hother, fun r hr => by cases hr⟩
      · rintro (⟨q', heq, hq⟩ | ⟨hother, -⟩)
        · cases heq
          exact absurd (Inquiry.cacheKey_eq_iff.2 hq) hkey
        · exact hother

theorem forgotten (h : Recalls cache lifetime calls) (q : Inquiry) :
    Recalls (Router.forgetProfile cache q).2 lifetime (calls ++ [.forgotten q]) where
  lifetime_eq := h.lifetime_eq
  kept_iff p profile := by
    change (cache.erase q.cacheKey).kept? p.cacheKey = _ ↔ _
    rw [TimedCache.kept?_erase, keptSince_snoc_iff, ← h.kept_iff]
    split
    · rename_i hkey
      constructor
      · rintro ⟨⟩
      · rintro (⟨q', heq, -⟩ | ⟨-, hnot⟩)
        · cases heq
        · exact absurd (Inquiry.cacheKey_eq_iff.1 hkey) (hnot q rfl)
    · rename_i hkey
      constructor
      · intro hkept
        refine .inr ⟨hkept, fun r hr hshares => ?_⟩
        cases hr
        exact hkey (Inquiry.cacheKey_eq_iff.2 hshares)
      · rintro (⟨q', heq, -⟩ | ⟨hkept, -⟩)
        · cases heq
        · exact hkept

end ProfileCache.Recalls

theorem recalls_of_history {router : Router} {lifetime : Nat} {calls : List ProfileCall}
    {cache : ProfileCache} (h : ProfileHistory router lifetime calls cache) :
    cache.Recalls lifetime calls := by
  induction h with
  | nil => exact .empty lifetime
  | asked h hends hclock ih =>
    cases Router.ends_profile_iff.1 hends with
    | unserved hadapter => exact ih.failed _ _
    | kept hadapter hkept =>
      have hnow := hclock _ List.mem_cons_self
      exact ih.kept ((ih.get?_eq_some_iff hnow).1 hkept)
    | failed hadapter hkept => exact ih.failed _ _
    | told hadapter hkept =>
      have hnow := hclock _ List.mem_cons_self
      refine ih.told (fun profile hsince => ?_) _ _
      rw [(ih.get?_eq_some_iff hnow).2 hsince] at hkept
      cases hkept
  | forgotten h p ih => exact ih.forgotten p

namespace Router

/-- The calls of adapters for profiles, each with its answer. -/
def profilesAsked (exchanges : List (Exchange surroundings)) :
    List (AdapterRef × Inquiry × Fallible (Option Profile)) :=
  exchanges.filterMap fun
    | ⟨.profile adapter p, answer⟩ => some (adapter, p, answer)
    | _ => none

section Telling

variable {router : Router} {lifetime : Nat} {calls : List ProfileCall} {cache cache' : ProfileCache}
  {p : Inquiry} {adapter : AdapterRef} {exchanges : List (Exchange surroundings)}
  {answer : Fallible (Option Profile)}

theorem Telling.of_unserved {e : Failure}
    (h : Telling router cache p exchanges (answer, cache')) (he : router.adapterOf p = .error e) :
    answer = .error e ∧ exchanges = [] := by
  cases h with
  | unserved hadapter =>
    rw [he] at hadapter
    cases hadapter
    exact ⟨rfl, rfl⟩
  | kept hadapter | failed hadapter | told hadapter =>
    rw [he] at hadapter
    cases hadapter

theorem Telling.of_kept (h : Telling router cache p exchanges (answer, cache'))
    (hrecalls : cache.Recalls lifetime calls) (hclock : BeforeExpiry lifetime exchanges)
    (hserved : router.adapterOf p = .ok adapter) {profile : Option Profile}
    (hkept : KeptSince Inquiry.SharesProfile calls p profile) :
    answer = .ok profile ∧ profilesAsked exchanges = [] := by
  cases h with
  | unserved hadapter =>
    rw [hserved] at hadapter
    cases hadapter
  | kept hadapter hfound =>
    rw [(hrecalls.get?_eq_some_iff (hclock _ List.mem_cons_self)).2 hkept] at hfound
    cases hfound
    exact ⟨rfl, rfl⟩
  | failed hadapter hfound | told hadapter hfound =>
    rw [(hrecalls.get?_eq_some_iff (hclock _ List.mem_cons_self)).2 hkept] at hfound
    cases hfound

theorem Telling.of_not_kept (h : Telling router cache p exchanges (answer, cache'))
    (hrecalls : cache.Recalls lifetime calls) (hclock : BeforeExpiry lifetime exchanges)
    (hserved : router.adapterOf p = .ok adapter)
    (hnone : ∀ profile, ¬ KeptSince Inquiry.SharesProfile calls p profile) :
    profilesAsked exchanges = [(adapter, p, answer)] := by
  cases h with
  | unserved hadapter =>
    rw [hserved] at hadapter
    cases hadapter
  | kept hadapter hfound =>
    exact absurd ((hrecalls.get?_eq_some_iff (hclock _ List.mem_cons_self)).1 hfound) (hnone _)
  | failed hadapter | told hadapter =>
    obtain rfl : adapter = _ := Except.ok.inj (hserved.symm.trans hadapter)
    rfl

end Telling

def sampleOnPlatform : Router where
  adapters :=
    (AdapterTable.add {} .ethereum none ⟨0, "chain"⟩).add .ethereum (some .lens) ⟨1, "lens"⟩
  queue := none

def sampleOnLens : Inquiry where
  identity := "x"
  network := .ethereum
  platform := some .lens
  limit := none
  since := none
  window := none

def sampleProfile : Profile :=
  ⟨"x", some "on lens", none, none, []⟩

theorem adapterOf_sampleOnLens : sampleOnPlatform.adapterOf sampleOnLens = .ok ⟨1, "lens"⟩ := rfl

theorem telling_sample :
    Telling sampleOnPlatform (.empty 600) sampleOnLens
      [⟨.ticks, (6 : Nat)⟩, ⟨.profile ⟨1, "lens"⟩ sampleOnLens, .ok (some sampleProfile)⟩,
        ⟨.ticks, (7 : Nat)⟩]
      (.ok (some sampleProfile),
        (TimedCache.empty 600).insert 7 sampleOnLens.cacheKey (some sampleProfile)) :=
  .told adapterOf_sampleOnLens rfl

/-- After any calls the profile of a served inquiry is the one that is kept since an earlier call
told it, and then no adapter is asked; where none is kept, the adapter of the inquiry is asked once
and its answer is passed on. Calls for other accounts play no part unless one of the two inquiries
is taken for the other. No premise on what the adapters answer is needed. -/
theorem profile_of_history {router : Router} {lifetime : Nat} {calls : List ProfileCall}
    {cache cache' : ProfileCache} {p : Inquiry} {exchanges : List (Exchange surroundings)}
    {answer : Fallible (Option Profile)} (h : ProfileHistory router lifetime calls cache)
    (hends : (router.profile cache p).Ends exchanges (answer, cache'))
    (hclock : BeforeExpiry lifetime exchanges) :
    (∀ e, router.adapterOf p = .error e → answer = .error e ∧ exchanges = []) ∧
    (∀ adapter, router.adapterOf p = .ok adapter →
      (∀ profile, KeptSince Inquiry.SharesProfile calls p profile →
        answer = .ok profile ∧ profilesAsked exchanges = []) ∧
      ((∀ profile, ¬ KeptSince Inquiry.SharesProfile calls p profile) →
        profilesAsked exchanges = [(adapter, p, answer)])) ∧
    ((∀ call ∈ calls, ¬ call.inquiry.TakenFor p ∧ ¬ p.TakenFor call.inquiry) →
      ∀ profile, KeptSince Inquiry.SharesProfile calls p profile ↔
        KeptSince Inquiry.SameAccount calls p profile) := by
  have hrecalls := recalls_of_history h
  have htelling := ends_profile_iff.1 hends
  refine ⟨fun e he => htelling.of_unserved he, fun adapter hserved => ⟨fun profile hkept => ?_,
    fun hnone => ?_⟩, fun hclear profile => keptSince_congr fun call hcall => ?_⟩
  · exact htelling.of_kept hrecalls hclock hserved hkept
  · exact htelling.of_not_kept hrecalls hclock hserved hnone
  · obtain ⟨hto, hfrom⟩ := hclear call hcall
    exact or_iff_left fun htaken => htaken.elim hto hfrom

/-- A failure is not kept, an answer is, and forgetting another identity leaves it. -/
theorem profile_of_history_sample :
    ∃ (other : Inquiry) (cache : ProfileCache),
      ProfileHistory sampleOnPlatform 600
        [.asked sampleOnLens (.error (.unavailable "down")),
          .asked sampleOnLens (.ok (some sampleProfile)), .forgotten other] cache ∧
      (sampleOnPlatform.profile cache sampleOnLens).Ends [⟨.ticks, (9 : Nat)⟩]
        (.ok (some sampleProfile), cache) ∧
      BeforeExpiry 600 [⟨.ticks, (9 : Nat)⟩] ∧
      sampleOnPlatform.adapterOf sampleOnLens = .ok ⟨1, "lens"⟩ ∧
      KeptSince Inquiry.SharesProfile
        [.asked sampleOnLens (.error (.unavailable "down")),
          .asked sampleOnLens (.ok (some sampleProfile)), .forgotten other]
        sampleOnLens (some sampleProfile) ∧
      profilesAsked [⟨.ticks, (9 : Nat)⟩] = [] := by
  let other : Inquiry := { sampleOnLens with identity := "y" }
  have hfailing : Telling sampleOnPlatform (.empty 600) sampleOnLens
      [⟨.ticks, (5 : Nat)⟩, ⟨.profile ⟨1, "lens"⟩ sampleOnLens, .error (.unavailable "down")⟩]
      (.error (.unavailable "down"), .empty 600) := .failed adapterOf_sampleOnLens rfl
  have hfailed := ProfileHistory.nil.asked (ends_profile_iff.2 hfailing)
    (by simp [BeforeExpiry])
  have htold := hfailed.asked (ends_profile_iff.2 telling_sample) (by simp [BeforeExpiry])
  have h := htold.forgotten other
  have hother : ¬ other.SharesProfile sampleOnLens := by
    rintro (⟨-, -, heq⟩ | ⟨-, heq, -⟩ | ⟨-, heq, -⟩)
    · exact absurd heq (by decide)
    · cases heq
    · cases heq
  have hkept : KeptSince Inquiry.SharesProfile
      [.asked sampleOnLens (.error (.unavailable "down")),
        .asked sampleOnLens (.ok (some sampleProfile)), .forgotten other]
      sampleOnLens (some sampleProfile) :=
    ⟨[_], [_], sampleOnLens, rfl, .inl ⟨rfl, rfl, rfl⟩, fun r hr => by
      cases List.mem_singleton.1 hr
      exact hother⟩
  have hclock : BeforeExpiry 600 [⟨.ticks, (9 : Nat)⟩] := by simp [BeforeExpiry]
  have hends := ends_profile_iff.2 (.kept adapterOf_sampleOnLens
    (((recalls_of_history h).get?_eq_some_iff (hclock 9 List.mem_cons_self)).2 hkept))
  exact ⟨other, _, h, hends, hclock, adapterOf_sampleOnLens, hkept,
    (((profile_of_history h hends hclock).2.1 _ adapterOf_sampleOnLens).1 _ hkept).2⟩

/-- The profile of one account is told for another, whose own adapter is not asked: their keys are
one text. -/
theorem profile_told_for_another_account :
    ∃ (plain : Inquiry) (cache : ProfileCache),
      ¬ sampleOnLens.SameAccount plain ∧
      sampleOnPlatform.adapterOf plain ≠ sampleOnPlatform.adapterOf sampleOnLens ∧
      ProfileHistory sampleOnPlatform 600 [.asked sampleOnLens (.ok (some sampleProfile))] cache ∧
      ∀ (exchanges : List (Exchange surroundings)) (answer : Fallible (Option Profile))
        (cache' : ProfileCache),
        (sampleOnPlatform.profile cache plain).Ends exchanges (answer, cache') →
        BeforeExpiry 600 exchanges →
        answer = .ok (some sampleProfile) ∧ profilesAsked exchanges = [] := by
  let plain : Inquiry := { sampleOnLens with identity := "lens:x", platform := none }
  have hplain : sampleOnPlatform.adapterOf plain = .ok ⟨0, "chain"⟩ := rfl
  have h := ProfileHistory.nil.asked (ends_profile_iff.2 telling_sample) (by simp [BeforeExpiry])
  have hkept : KeptSince Inquiry.SharesProfile [.asked sampleOnLens (.ok (some sampleProfile))]
      plain (some sampleProfile) :=
    ⟨[], [], sampleOnLens, rfl, .inr (.inr ⟨rfl, rfl, .lens, rfl, rfl⟩), fun r hr => by cases hr⟩
  refine ⟨plain, _, ?_, ?_, h, fun exchanges answer cache' hends hclock => ?_⟩
  · rintro ⟨-, heq, -⟩
    cases heq
  · rw [hplain, adapterOf_sampleOnLens]
    intro heq
    cases heq
  · exact (ends_profile_iff.1 hends).of_kept (recalls_of_history h) hclock hplain hkept

end Router

end ChainCrawl
