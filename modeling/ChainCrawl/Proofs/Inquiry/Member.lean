import ChainCrawl.Inquiry.Member
import ChainCrawl.Proofs.Json.Document
import ChainCrawl.Proofs.Json.RoundTrip
import ChainCrawl.Proofs.Shape.Json

namespace ChainCrawl

open ChainCrawl.Json (Document)
open Shape (Fields)

namespace Inquiry

variable {p q : Inquiry}

theorem writes_memberFields (p : Inquiry) :
    Fields.Writes fields (Document.ofFields p.memberFields) p.withoutWindow := by
  have hidentity := Fields.Writes.given (Shape.text_str p.identity) "identity" false
    (.error (.missingField "identity"))
  have hnetwork := Fields.Writes.given (Shape.oneCase_network p.network) "network" false
    (.error (.missingField "network"))
  have hplatform := Fields.Writes.optionalField (fun x : Platform => .str x.name)
    (fun _ => nofun) Shape.oneCase_platform "platform" p.platform
  have hlimit := Fields.Writes.optionalField (fun x : UInt32 => .int x.toNat) (fun _ => nofun)
    Shape.uint32_toNat "limit" p.limit
  have hsince := Fields.Writes.optionalField (fun x : Time.Instant => .str x.text)
    (fun _ => nofun) Shape.instant_text "since" p.since
  have hwindow := Fields.Writes.leftOut
    (Shape.orNull (Shape.record .text "BlockWindow" Window.fields)) "window" true none
  have h := (((((hidentity.map Inquiry.mk).seq hnetwork (by simp)).seq hplatform (by simp)).seq
    hlimit (by simp)).seq hsince (by simp)).seq hwindow (by simp)
  rw [List.append_nil] at h
  rw [memberFields, Document.ofFields_append, Document.ofFields_append, Document.ofFields_append]
  exact h

theorem whole_memberFields (p : Inquiry) : (Json.obj p.memberFields).Whole := by
  have hlimit : ∀ x : UInt32, (Json.int x.toNat).Whole := fun x => by
    have hlt : x.toNat < 4294967296 := x.toNat_lt
    simp only [Json.Whole, Word.minInt64, Word.maxUInt64]
    omega
  have hfixed : Json.WholeFields
      [("identity", .str p.identity), ("network", .str p.network.name)] :=
    ⟨trivial, trivial, trivial⟩
  have hplatform := Json.WholeFields.optionalField (fun x : Platform => .str x.name)
    (fun _ => trivial) "platform" p.platform
  have hsince := Json.WholeFields.optionalField (fun x : Time.Instant => .str x.text)
    (fun _ => trivial) "since" p.since
  exact ((hfixed.append hplatform).append (.optionalField _ hlimit "limit" p.limit)).append hsince

/-- A member is read as the inquiry it was written for, without the window. -/
theorem ofMember_member (p : Inquiry) : ofMember p.member = .ok p.withoutWindow := by
  have hdocument : Document.read? p.member = some (.obj (Document.ofFields p.memberFields)) :=
    Document.read?_render p.whole_memberFields
  have hdecoded : ofDocument (.obj (Document.ofFields p.memberFields)) = .ok p.withoutWindow :=
    p.writes_memberFields.ofEntries_eq (by simp [Fields.names, fields]) false
  simp only [ofMember, Shape.fromText, hdocument, hdecoded]

theorem member_withoutWindow (p : Inquiry) : p.withoutWindow.member = p.member := rfl

/-- Inquiries share a member only if they differ in nothing else than their windows. -/
theorem member_eq_iff : p.member = q.member ↔ p.withoutWindow = q.withoutWindow := by
  constructor
  · intro h
    have hread : (.ok p.withoutWindow : Fallible Inquiry) = .ok q.withoutWindow := by
      rw [← ofMember_member, ← ofMember_member, h]
    exact Except.ok.inj hread
  · intro h
    rw [← p.member_withoutWindow, h, q.member_withoutWindow]

theorem withoutWindow_eq_iff :
    p.withoutWindow = q.withoutWindow ↔
      p.identity = q.identity ∧ p.network = q.network ∧ p.platform = q.platform ∧
        p.limit = q.limit ∧ p.since = q.since := by
  simp [withoutWindow]

/-- Every inquiry is got back from its member but for the window, and no two inquiries that differ
in anything else share a member. No premise on identities or times is needed. -/
theorem member_lossless_and_canonical :
    (∀ p : Inquiry, ofMember p.member = .ok { p with window := none }) ∧
      ∀ p q : Inquiry, p.member = q.member ↔
        p.identity = q.identity ∧ p.network = q.network ∧ p.platform = q.platform ∧
          p.limit = q.limit ∧ p.since = q.since :=
  ⟨fun p => p.ofMember_member, fun _ _ => member_eq_iff.trans withoutWindow_eq_iff⟩

end Inquiry

end ChainCrawl
