import ChainCrawl.Inquiry.Member
import ChainCrawl.Json.Access
import ChainCrawl.Record.Basic

namespace ChainCrawl

open ChainCrawl.Json (Document)

namespace Attachment

def toJson (a : Attachment) : Json :=
  .obj ([("kind", .str a.kind)] ++
    Json.optionalField "address" (a.address.map .str) ++
    Json.optionalField "mime_type" (a.mimeType.map .str) ++
    Json.optionalField "content" (a.content.map .str))

def fields : Shape.Fields Document Attachment :=
  Attachment.mk <$> .field "kind" Shape.text
    <*> .fieldD "address" (Shape.orNull Shape.text) none
    <*> .fieldD "mime_type" (Shape.orNull Shape.text) none
    <*> .fieldD "content" (Shape.orNull Shape.text) none

def ofDocument (origin : Shape.Origin) : Document → Shape.Decoded Attachment :=
  Shape.record origin "Attachment" fields

end Attachment

namespace ActivityRecord

/-- The fields of a record, in the order in which they are written. -/
def toJson (r : ActivityRecord) : Json :=
  .obj [("identifier", .str r.identifier), ("kind", .str r.kind.name),
    ("network", .str r.network.name), ("platform", Json.ofText? (r.platform.map Platform.name)),
    ("source", .str r.source), ("proof", .str r.proof), ("owner", .str r.owner),
    ("related_urls", .ofTexts r.relatedUrls), ("tags", .ofTexts r.tags),
    ("authors", .ofTexts r.authors),
    ("attachments", .arr (r.attachments.map Attachment.toJson)), ("metadata", r.metadata),
    ("created_at", .str r.createdAt.text), ("updated_at", .str r.updatedAt.text)]

/-- A record as named fields. The metadata stand inside one object, the record itself. -/
def fields : Shape.Fields Document ActivityRecord :=
  ActivityRecord.mk <$> .field "identifier" Shape.text
    <*> .field "kind" (Shape.oneCase ActivityKind.cases)
    <*> .field "network" (Shape.oneCase Network.cases)
    <*> .optional "platform" (Shape.orNull (Shape.oneCase Platform.cases))
    <*> .field "source" Shape.text
    <*> .field "proof" Shape.text
    <*> .field "owner" Shape.text
    <*> .field "related_urls" (Shape.list Shape.text)
    <*> .field "tags" (Shape.list Shape.text)
    <*> .field "authors" (Shape.list Shape.text)
    <*> .field "attachments" (Shape.list (Attachment.ofDocument .text))
    <*> .field "metadata" (Shape.json 1)
    <*> .field "created_at" Shape.instant
    <*> .field "updated_at" Shape.instant

def ofDocument : Document → Shape.Decoded ActivityRecord :=
  Shape.record .text "NormalizedRecord" fields

def ofText (s : String) : Except Shape.TextError ActivityRecord :=
  Shape.fromText ofDocument s

end ActivityRecord

end ChainCrawl
