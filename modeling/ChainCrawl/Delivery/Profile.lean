import ChainCrawl.Delivery.Router
import ChainCrawl.TimedCache

namespace ChainCrawl

/-- The profiles that were told. -/
abbrev ProfileCache := TimedCache String (Option Profile)

/-- How long a profile is kept by default, in milliseconds. -/
def profileLifetime : Nat := 10 * 60 * 1000

/-- The key under which an inquiry's profile is kept. -/
def Inquiry.cacheKey (inquiry : Inquiry) : String :=
  match inquiry.platform with
  | some platform => s!"{inquiry.network.name}:{platform.name}:{inquiry.identity}"
  | none => s!"{inquiry.network.name}:{inquiry.identity}"

namespace Router

/-- The profile of an inquiry's identity, from the cache or else from its adapter. That an adapter
knows no profile is kept as well; a failure is not. -/
def profile (router : Router) (cache : ProfileCache) (inquiry : Inquiry) :
    Work (Fallible (Option Profile) × ProfileCache) := do
  match router.adapterOf inquiry with
  | .error e => return (.error e, cache)
  | .ok adapter =>
    match cache.get? (← Work.call .ticks) inquiry.cacheKey with
    | some profile => return (.ok profile, cache)
    | none =>
      match ← Work.call (.profile adapter inquiry) with
      | .error e => return (.error e, cache)
      | .ok profile =>
        return (.ok profile, cache.insert (← Work.call .ticks) inquiry.cacheKey profile)

/-- Forgets the profile of an inquiry's identity, and says whether it was kept. -/
def forgetProfile (cache : ProfileCache) (inquiry : Inquiry) : Bool × ProfileCache :=
  cache.discard inquiry.cacheKey

end Router

end ChainCrawl
