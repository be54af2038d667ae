import ChainCrawl.Proofs.Json.RoundTrip
import ChainCrawl.Proofs.Shape.Given
import ChainCrawl.Proofs.Shape.Json
import ChainCrawl.Record.Document

namespace ChainCrawl

open ChainCrawl.Json (Document)
open Shape (Fields)

namespace Attachment

theorem writes_fields (a : Attachment) :
    ∃ entries, a.toJson = .obj entries ∧ Fields.Writes fields (Document.ofFields entries) a := by
  have hkind := Fields.Writes.given (Shape.text_str a.kind) "kind" false
    (.error (.missingField "kind"))
  have htext : ∀ (name : String) (o : Option String),
      Fields.Writes (.fieldD name (Shape.orNull Shape.text) none)
        (Document.ofFields (Json.optionalField name (o.map .str))) o :=
    .optionalField .str (fun _ => nofun) Shape.text_str
  have h := (((hkind.map Attachment.mk).seq (htext "address" a.address) (by simp)).seq
    (htext "mime_type" a.mimeType) (by simp)).seq (htext "content" a.content) (by simp)
  refine ⟨_, rfl, ?_⟩
  rw [Document.ofFields_append, Document.ofFields_append, Document.ofFields_append]
  exact h

/-- An attachment is read as it was written, whichever of its fields it has. -/
theorem ofDocument_toJson (origin : Shape.Origin) (a : Attachment) :
    ofDocument origin (.ofJson a.toJson) = .ok a := by
  obtain ⟨entries, hentries, hwrites⟩ := a.writes_fields
  rw [hentries]
  exact hwrites.ofEntries_eq (by simp [Fields.names, fields]) false

theorem whole_toJson (a : Attachment) : a.toJson.Whole := by
  have htext : ∀ (name : String) (o : Option String),
      Json.WholeFields (Json.optionalField name (o.map .str)) :=
    .optionalField .str fun _ => trivial
  have hkind : Json.WholeFields [("kind", .str a.kind)] := ⟨trivial, trivial⟩
  exact ((hkind.append (htext "address" a.address)).append (htext "mime_type" a.mimeType)).append
    (htext "content" a.content)

theorem depth_toJson_le (a : Attachment) : a.toJson.depth ≤ 1 := by
  cases a with
  | mk kind address mimeType content =>
    cases address <;> cases mimeType <;> cases content <;> exact Nat.le_refl 1

end Attachment

namespace ActivityRecord

variable {r : ActivityRecord}

theorem orNull_platform (platform : Option Platform) :
    Shape.orNull (Shape.oneCase Platform.cases)
      (.ofJson (Json.ofText? (platform.map Platform.name))) = .ok platform := by
  cases platform with
  | none => rfl
  | some p => exact Shape.orNull_of_ok nofun (Shape.oneCase_platform p)

theorem writes_fields (hordered : r.metadata.Ordered)
    (hdepth : r.metadata.depth + 1 ≤ Document.maxDepth) :
    ∃ written, r.toJson = .obj written ∧ Fields.Writes fields (Document.ofFields written) r := by
  have hplatform : Fields.Writes
      (.optional "platform" (Shape.orNull (Shape.oneCase Platform.cases)))
      (Document.ofFields [("platform", Json.ofText? (r.platform.map Platform.name))]) r.platform :=
    .given (orNull_platform r.platform) "platform" false (.ok none)
  have htexts : ∀ (name : String) (texts : List String),
      Fields.Writes (.field name (Shape.list Shape.text))
        (Document.ofFields [(name, .ofTexts texts)]) texts :=
    fun name texts => .field (Shape.list_arr Shape.text_str texts) name
  have hattachments := Fields.Writes.field
    (Shape.list_arr (Attachment.ofDocument_toJson .text) r.attachments) "attachments"
  have hmetadata := Fields.Writes.field
    ((Shape.json_ofJson hordered 1).trans (if_pos hdepth)) "metadata"
  have h := Fields.Writes.fieldOfText (Shape.text_str r.identifier) "identifier"
    |>.map ActivityRecord.mk
    |>.seq (.fieldOfText (Shape.oneCase_activityKind r.kind) "kind") (by simp)
    |>.seq (.fieldOfText (Shape.oneCase_network r.network) "network") (by simp)
    |>.seq hplatform (by simp)
    |>.seq (.fieldOfText (Shape.text_str r.source) "source") (by simp)
    |>.seq (.fieldOfText (Shape.text_str r.proof) "proof") (by simp)
    |>.seq (.fieldOfText (Shape.text_str r.owner) "owner") (by simp)
    |>.seq (htexts "related_urls" r.relatedUrls) (by simp)
    |>.seq (htexts "tags" r.tags) (by simp)
    |>.seq (htexts "authors" r.authors) (by simp)
    |>.seq hattachments (by simp)
    |>.seq hmetadata (by simp)
    |>.seq (.fieldOfText (Shape.instant_text r.createdAt) "created_at") (by simp)
    |>.seq (.fieldOfText (Shape.instant_text r.updatedAt) "updated_at") (by simp)
  simp only [Document.ofFields, List.cons_append, List.nil_append] at h
  exact ⟨_, rfl, h⟩

theorem whole_toJson (h : r.metadata.Whole) : r.toJson.Whole := by
  have htexts : ∀ texts : List String, (Json.ofTexts texts).Whole := .map fun _ => trivial
  have hplatform : (Json.ofText? (r.platform.map Platform.name)).Whole := by
    cases r.platform <;> exact trivial
  have hattachments : Json.WholeItems (r.attachments.map Attachment.toJson) :=
    .map Attachment.whole_toJson r.attachments
  exact ⟨trivial, trivial, trivial, hplatform, trivial, trivial, trivial, htexts r.relatedUrls,
    htexts r.tags, htexts r.authors, hattachments, h, trivial, trivial, trivial⟩

/-- Only the metadata may nest deep. -/
theorem depth_toJson_le_iff :
    r.toJson.depth ≤ Document.maxDepth ↔ r.metadata.depth + 1 ≤ Document.maxDepth := by
  have htexts : ∀ texts : List String, (Json.ofTexts texts).depth ≤ 1 := fun texts =>
    Nat.succ_le_succ (Json.itemsDepth_map_le (fun _ => Nat.le_refl 0) texts)
  have hplatform : (Json.ofText? (r.platform.map Platform.name)).depth = 0 := by
    cases r.platform <;> rfl
  have hattachments : Json.itemsDepth (r.attachments.map Attachment.toJson) ≤ 1 :=
    Json.itemsDepth_map_le Attachment.depth_toJson_le r.attachments
  have hurls := htexts r.relatedUrls
  have htags := htexts r.tags
  have hauthors := htexts r.authors
  simp only [toJson, Json.depth, Json.fieldsDepth, hplatform, Document.maxDepth]
  omega

/-- Metadata that are read as part of a record do not nest too deep. -/
theorem metadata_depth_of_ofDocument {r' : ActivityRecord}
    (h : ofDocument (.ofJson r.toJson) = .ok r') : r.metadata.depth + 1 ≤ Document.maxDepth := by
  obtain ⟨hbuild, -⟩ := Fields.build_of_fromJson h
  obtain ⟨_, _, hbuild, -⟩ := Fields.build_seq_eq_ok_iff.1 hbuild
  obtain ⟨_, _, hbuild, -⟩ := Fields.build_seq_eq_ok_iff.1 hbuild
  obtain ⟨_, metadata, -, hmetadata, -⟩ := Fields.build_seq_eq_ok_iff.1 hbuild
  have hread : Shape.json 1 (.ofJson r.metadata) = .ok metadata := hmetadata
  unfold Shape.json at hread
  split at hread
  · rename_i hdepth
    rwa [Document.depth_ofJson] at hdepth
  · cases hread

/-- The text of a record is read as the very same record, whatever its texts, lists, attachments and
times and whichever of its fields are absent, as long as its metadata are a value without floats;
and exactly if the whole nests no deeper than a reader goes. -/
theorem ofText_render (hwhole : r.metadata.Whole) (hordered : r.metadata.Ordered) :
    ofText r.toJson.render = .ok r ↔ r.toJson.depth ≤ Document.maxDepth := by
  rw [ofText, Shape.fromText_render (whole_toJson hwhole), depth_toJson_le_iff]
  constructor
  · exact metadata_depth_of_ofDocument
  · intro hdepth
    obtain ⟨written, htoJson, hwrites⟩ := writes_fields hordered hdepth
    rw [htoJson]
    exact hwrites.ofEntries_eq (by simp [Fields.names, fields]) false

/-- A record with a leap second, a year below zero, numbers at both bounds of 64 bits, and texts
that need escapes. -/
def laden : ActivityRecord where
  identifier := "zk_sync:0xabc-12"
  kind := .asset
  network := .zkSync
  platform := some .mirror
  source := "etherscan"
  proof := "0xabc-12"
  owner := "a \"name\" \\ Ж"
  relatedUrls := ["https://explorer.test/tx/0xabc"]
  tags := []
  authors := ["0xcd", "", "\x01\n"]
  attachments := [⟨"media", none, some "image/png", none⟩, ⟨"quote", some "0xef", none, some ""⟩]
  metadata := .obj [("bounds", .arr [.int Word.minInt64, .int Word.maxUInt64, .null]),
    ("nested", .obj [("", .bool true), ("\"", .obj [])])]
  createdAt := ⟨1483228799, 1500000000, by decide, by decide, by decide, by decide⟩
  updatedAt := ⟨Time.firstSecond, 1, by decide, by decide, by decide, by decide⟩

theorem ofText_render_sample :
    laden.metadata.Whole ∧ laden.metadata.Ordered ∧ laden.toJson.depth ≤ Document.maxDepth ∧
      ofText laden.toJson.render = .ok laden := by
  have hwhole : laden.metadata.Whole := by
    simp [laden, Json.Whole, Json.WholeFields, Json.WholeItems]
  have hordered : laden.metadata.Ordered := by
    refine ⟨?_, ⟨trivial, trivial, trivial, trivial⟩, ⟨?_, trivial, ⟨.nil, trivial⟩, trivial⟩,
      trivial⟩
    · exact List.pairwise_pair.2 (by decide)
    · exact List.pairwise_pair.2 (by decide)
  have hdepth : laden.toJson.depth ≤ Document.maxDepth := depth_toJson_le_iff.2 (by decide)
  exact ⟨hwhole, hordered, hdepth, (ofText_render hwhole hordered).2 hdepth⟩

end ActivityRecord

end ChainCrawl
