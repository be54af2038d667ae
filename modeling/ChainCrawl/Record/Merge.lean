import ChainCrawl.Record.Basic

namespace ChainCrawl

/-- Metadata after a further delivery: two objects are joined, the newer fields counting; anything
else is replaced. -/
def mergeMetadata : Json → Json → Json
  | .obj current, .obj update =>
    .obj (update.foldl (fun fields (key, value) => Json.insert key value fields) current)
  | _, update => update

namespace ActivityRecord

/-- The row of an event after a further delivery. What identifies the event stays; lists give way to
the new ones; metadata are joined field by field; the later update time counts. -/
def merge (row incoming : ActivityRecord) : ActivityRecord :=
  { row with
    relatedUrls := incoming.relatedUrls
    tags := incoming.tags
    authors := incoming.authors
    attachments := incoming.attachments
    metadata := mergeMetadata row.metadata incoming.metadata
    updatedAt := row.updatedAt.latest incoming.updatedAt }

@[simp]
theorem identifier_merge (row incoming : ActivityRecord) :
    (row.merge incoming).identifier = row.identifier := rfl

end ActivityRecord

end ChainCrawl
