import ChainCrawl.Proofs.Json.Object
import ChainCrawl.Record.Basic

namespace ChainCrawl.ActivityRecord

variable (r : ActivityRecord)

@[simp]
theorem identifier_addTags (tags : List String) : (r.addTags tags).identifier = r.identifier := rfl

@[simp]
theorem identifier_addAuthor (author : String) :
    (r.addAuthor author).identifier = r.identifier := rfl

@[simp]
theorem identifier_addUrl (url : String) : (r.addUrl url).identifier = r.identifier := rfl

@[simp]
theorem identifier_setMetadata (key : String) (value : Json) :
    (r.setMetadata key value).identifier = r.identifier := by
  unfold setMetadata
  split <;> rfl

@[simp]
theorem createdAt_addTags (tags : List String) : (r.addTags tags).createdAt = r.createdAt := rfl

@[simp]
theorem createdAt_addAuthor (author : String) : (r.addAuthor author).createdAt = r.createdAt := rfl

@[simp]
theorem createdAt_addUrl (url : String) : (r.addUrl url).createdAt = r.createdAt := rfl

@[simp]
theorem createdAt_setMetadata (key : String) (value : Json) :
    (r.setMetadata key value).createdAt = r.createdAt := by
  unfold setMetadata
  split <;> rfl

@[simp]
theorem metadata_addTags (tags : List String) : (r.addTags tags).metadata = r.metadata := rfl

@[simp]
theorem metadata_addAuthor (author : String) : (r.addAuthor author).metadata = r.metadata := rfl

@[simp]
theorem metadata_addUrl (url : String) : (r.addUrl url).metadata = r.metadata := rfl

/-- No premise on the metadata is needed: metadata that are no object give way to one. -/
theorem get?_setMetadata (key other : String) (value : Json) :
    (r.setMetadata key value).metadata.get? other =
      if key = other then some value else r.metadata.get? other := by
  unfold setMetadata
  cases hmetadata : r.metadata with
  | obj fields => exact Json.lookup_insert key other value fields
  | _ => exact Json.lookup_cons key other value []

end ChainCrawl.ActivityRecord
