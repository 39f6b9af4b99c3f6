import Scaffold.Run
import Scaffold.Blueprint.File
import Scaffold.Blueprint.Record
import Scaffold.Proofs.Path.Plain
import Scaffold.Proofs.Store.Creation
import Scaffold.Proofs.Ledger.Accounted
import Scaffold.Proofs.Store.Removal
import Scaffold.Proofs.Ledger.Parents
import Scaffold.Proofs.Ledger.Commands
import Scaffold.Proofs.Ledger.Exact
import Scaffold.Proofs.Run.Progress
import Scaffold.Proofs.Run.Rollback
import Scaffold.Proofs.Run.Frame
import Scaffold.Proofs.Run.Undo
import Scaffold.Proofs.Run.Loss
import Scaffold.Proofs.Template.History
import Scaffold.Proofs.Run.Turns
import Scaffold.Proofs.Run.Again
import Scaffold.Proofs.Run.Fresh
import Scaffold.Proofs.Blueprint.Stored
import Scaffold.Proofs.Blueprint.Names
import Scaffold.Proofs.Template.Lookups
import Scaffold.Proofs.Blueprint.Outcome
import Scaffold.Proofs.Blueprint.Changes
import Scaffold.Proofs.Run.Listed
import Scaffold.Proofs.Ledger.Failing
import Scaffold.Proofs.Store.Removed
import Scaffold.Proofs.Ledger.Contents
import Scaffold.Proofs.Run.Schema
import Scaffold.Proofs.Json.Written
import Scaffold.Proofs.Environment.Assignments
import Scaffold.Proofs.Environment.Disclosure
import Scaffold.Proofs.Text.Words
import Scaffold.Proofs.Run.Models
import Scaffold.Proofs.Ledger.Missing
import Scaffold.Proofs.Template.Equality
import Scaffold.Proofs.Run.Clients
import Scaffold.Proofs.Template.Placeholders
import Scaffold.Proofs.Template.Verbatim
import Scaffold.Proofs.Path.Spelling
