import ChargingRegister.Console.Outcome
import ChargingRegister.Json.Reader
import ChargingRegister.Main
import ChargingRegister.Proofs.Store.Pattern
import ChargingRegister.Store.Document
import ChargingRegister.Store.Probe
import ChargingRegister.Text.Parts
import ChargingRegister.Proofs.Listing.Order
import ChargingRegister.Proofs.Store.Rows
import ChargingRegister.Proofs.Store.Refinement
import ChargingRegister.Proofs.Store.Agreement
import ChargingRegister.Proofs.Listing.Search
import ChargingRegister.Proofs.Listing.Completeness
import ChargingRegister.Proofs.Store.Calls
import ChargingRegister.Proofs.Console.Gate
import ChargingRegister.Proofs.Console.Check
import ChargingRegister.Proofs.Store.Trace
import ChargingRegister.Proofs.Store.Refusal
import ChargingRegister.Proofs.Registry.Request
import ChargingRegister.Proofs.Registry.Failure
import ChargingRegister.Proofs.Store.View
import ChargingRegister.Proofs.Store.Lookup
import ChargingRegister.Proofs.Registry.Directory
import ChargingRegister.Proofs.Store.Integrity
import ChargingRegister.Proofs.Registry.Integrity
import ChargingRegister.Proofs.Store.Numbers
import ChargingRegister.Proofs.Registry.Pool
import ChargingRegister.Proofs.Registry.Deletion
import ChargingRegister.Proofs.Registry.Independence
import ChargingRegister.Proofs.Listing.Patch
import ChargingRegister.Proofs.Store.Accounts
import ChargingRegister.Proofs.Console.Seeding
import ChargingRegister.Proofs.Registry.Removal
import ChargingRegister.Proofs.Listing.Canonical
import ChargingRegister.Proofs.Identity.Credentials
import ChargingRegister.Proofs.Identity.Mismatch
import ChargingRegister.Proofs.Identity.Restart
import ChargingRegister.Proofs.Text.Blank
import ChargingRegister.Proofs.Status.Spelling
import ChargingRegister.Proofs.Console.Execution
import ChargingRegister.Proofs.Console.Arguments
import ChargingRegister.Proofs.Console.Edit
import ChargingRegister.Proofs.Text.Normal
import ChargingRegister.Proofs.Listing.Respelling
import ChargingRegister.Proofs.Decimal
import ChargingRegister.Proofs.Json.Reading
import ChargingRegister.Proofs.Calendar.Written
import ChargingRegister.Proofs.Station.Record
import ChargingRegister.Proofs.Console.Document
import ChargingRegister.Proofs.Registry.Statistics
import ChargingRegister.Console.Dialogue
import ChargingRegister.Proofs.Console.Output
import ChargingRegister.Proofs.Console.Table
import ChargingRegister.Proofs.Store.Encoding
import ChargingRegister.Proofs.Toml.Distinct
import ChargingRegister.Proofs.Config.Layering
