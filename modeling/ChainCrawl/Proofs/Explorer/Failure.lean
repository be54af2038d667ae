import ChainCrawl.Explorer.Fetch
import ChainCrawl.Finality
import ChainCrawl.Proofs.Proc.Run
import ChainCrawl.Table.Failure

namespace ChainCrawl

open Proc

/-- No cause is left out: a refusal and an answer of another shape are failures of the explorer. -/
@[simp]
theorem ExplorerFailure.isRetriable_toFailure (f : ExplorerFailure) : f.toFailure.isRetriable := by
  cases f <;> rfl

@[simp]
theorem TableFailure.isRetriable_toFailure (f : TableFailure) : f.toFailure.isRetriable := rfl

/-- No premise on the failure is needed: one that may last is not passed on as itself. -/
@[simp]
theorem Finality.isRetriable_failure (f : Finality) (e : Failure) :
    (f.failure e).isRetriable := by
  cases e <;> rfl

namespace Explorer

variable {client : Client} {inquiry : Inquiry} {exchanges : List (Exchange web)} {e : Failure}

/-- One of the two lists of an inquiry could not be read, for this cause. -/
def Unlisted (client : Client) (inquiry : Inquiry) (own : List (Exchange web))
    (f : ExplorerFailure) : Prop :=
  (client.transfers inquiry.identity (listingFor inquiry)).run.Ends own (.error f) ∨
    (client.transactions inquiry.identity (listingFor inquiry)).run.Ends own (.error f)

/-- A fetch that fails has not read one of its lists. -/
theorem unlisted_of_ends_fetch (h : (fetch client inquiry).Ends exchanges (.error e)) :
    ∃ own f, own.Sublist exchanges ∧ Unlisted client inquiry own f ∧ e = f.toFailure := by
  obtain ⟨listed, hboth, heq⟩ := ends_bind_done_iff.1 h
  cases listed with
  | ok lists => cases heq
  | error f =>
    cases heq
    obtain ⟨own, hsub, hunlisted⟩ := exists_ends_of_ends_both_error hboth
    exact ⟨own, f, hsub, hunlisted, rfl⟩

end Explorer

end ChainCrawl
