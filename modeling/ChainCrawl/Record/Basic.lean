import ChainCrawl.Json.Value
import ChainCrawl.Network
import ChainCrawl.Time.Instant

namespace ChainCrawl

/-- Something that belongs to a record: a quote, a medium, a receipt. -/
structure Attachment where
  kind : String
  address : Option String
  mimeType : Option String
  content : Option String
  deriving DecidableEq

/-- A record of activity. -/
structure ActivityRecord where
  /-- The network and the proof; the same event always has the same one. -/
  identifier : String
  kind : ActivityKind
  network : Network
  platform : Option Platform
  /-- The adapter that made the record. -/
  source : String
  /-- What proves the event on its network: a transaction, a place in its log, a post. -/
  proof : String
  owner : String
  relatedUrls : List String
  tags : List String
  authors : List String
  attachments : List Attachment
  metadata : Json
  createdAt : Time.Instant
  updatedAt : Time.Instant

namespace ActivityRecord

def identifierOf (network : Network) (proof : String) : String :=
  network.name ++ ":" ++ proof

/-- A record with nothing but what it must have, made at the instant `now`. -/
def of (kind : ActivityKind) (network : Network) (proof owner source : String)
    (now : Time.Instant) : ActivityRecord where
  identifier := identifierOf network proof
  kind := kind
  network := network
  platform := none
  source := source
  proof := proof
  owner := owner
  relatedUrls := []
  tags := []
  authors := []
  attachments := []
  metadata := .obj []
  createdAt := now
  updatedAt := now

variable (r : ActivityRecord)

def setPlatform (p : Platform) : ActivityRecord :=
  { r with platform := some p }

def addTags (tags : List String) : ActivityRecord :=
  { r with tags := r.tags ++ tags }

def addAuthor (author : String) : ActivityRecord :=
  { r with authors := r.authors ++ [author] }

def addUrl (url : String) : ActivityRecord :=
  { r with relatedUrls := r.relatedUrls ++ [url] }

def addAttachment (a : Attachment) : ActivityRecord :=
  { r with attachments := r.attachments ++ [a] }

/-- Sets one field of the metadata; metadata that is no object gives way to one. -/
def setMetadata (key : String) (value : Json) : ActivityRecord :=
  match r.metadata with
  | .obj fields => { r with metadata := .obj (Json.insert key value fields) }
  | _ => { r with metadata := .obj [(key, value)] }

def setCreatedAt (at_ : Time.Instant) : ActivityRecord :=
  { r with createdAt := at_ }

def setUpdatedAt (at_ : Time.Instant) : ActivityRecord :=
  { r with updatedAt := at_ }

end ActivityRecord

end ChainCrawl
