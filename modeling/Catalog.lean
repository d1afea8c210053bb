import Catalog.Main
import Catalog.Proofs.Analysis.Absence
import Catalog.Proofs.Analysis.Address
import Catalog.Proofs.Analysis.Cancellation
import Catalog.Proofs.Analysis.Contract
import Catalog.Proofs.Analysis.Cover
import Catalog.Proofs.Analysis.Isolation
import Catalog.Proofs.Analysis.Noninterference
import Catalog.Proofs.Analysis.Protocol
import Catalog.Proofs.Analysis.Reversal
import Catalog.Proofs.Book.Serialization
import Catalog.Proofs.Json.DocumentOrder
import Catalog.Proofs.Json.Rendering
import Catalog.Proofs.Page.Enumeration
import Catalog.Proofs.Page.FirstMatch
import Catalog.Proofs.Page.Nesting
import Catalog.Proofs.Page.PlainText
import Catalog.Proofs.Page.Rebinding
import Catalog.Proofs.Page.Refusal
import Catalog.Proofs.Page.Wildcard
import Catalog.Proofs.Rule.Assignment
import Catalog.Proofs.Rule.Evaluation
import Catalog.Proofs.Rule.Grouping
import Catalog.Proofs.Rule.Joining
import Catalog.Proofs.Rule.Printing
import Catalog.Proofs.Rule.Scan
import Catalog.Proofs.Rule.Script
import Catalog.Proofs.Rule.Suffix
import Catalog.Proofs.Source.Rearrangement
