import ChainCrawl.Config.Reader
import ChainCrawl.Delivery.Profile
import ChainCrawl.Environment.Secrets
import ChainCrawl.Explorer.EventRecord
import ChainCrawl.Json.Access
import ChainCrawl.Json.Reader
import ChainCrawl.Poller.Loop
import ChainCrawl.Proofs.Delivery.Answers
import ChainCrawl.Proofs.Delivery.Batch
import ChainCrawl.Proofs.Delivery.Profile
import ChainCrawl.Proofs.Delivery.Since
import ChainCrawl.Proofs.Explorer.Amount
import ChainCrawl.Proofs.Explorer.Decimals
import ChainCrawl.Proofs.Explorer.Identity
import ChainCrawl.Proofs.Explorer.Newest
import ChainCrawl.Proofs.Explorer.Quantity
import ChainCrawl.Proofs.Poller.Confirmation
import ChainCrawl.Proofs.Poller.Fleet
import ChainCrawl.Proofs.Poller.Independence
import ChainCrawl.Proofs.Poller.Ingestion
import ChainCrawl.Proofs.Poller.Outcome
import ChainCrawl.Proofs.Poller.Progress
import ChainCrawl.Proofs.Poller.Rounds
import ChainCrawl.Proofs.Poller.Throttling
import ChainCrawl.Proofs.Record.Document
import ChainCrawl.Proofs.Table.Split
import ChainCrawl.Proofs.Visit.History
import ChainCrawl.Proofs.Visit.Isolation
import ChainCrawl.Proofs.Visit.Paging
import ChainCrawl.Proofs.Visit.Remembrance
import ChainCrawl.Proofs.Visit.Sweep
import ChainCrawl.Proofs.Visit.Traversal
import ChainCrawl.Record.Document
import ChainCrawl.Record.Merge
import ChainCrawl.Report.Failure
import ChainCrawl.Report.Outcome
import ChainCrawl.Table.Cursor
import ChainCrawl.Table.Record
import ChainCrawl.Table.Visit
import ChainCrawl.Visit.Sweeper
