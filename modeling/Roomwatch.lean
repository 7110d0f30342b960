import Roomwatch.Reporter.Display
import Roomwatch.Session.Step
import Roomwatch.Proofs.Accounts
import Roomwatch.Proofs.Agreement
import Roomwatch.Proofs.Slots
import Roomwatch.Proofs.RoundTrip
import Roomwatch.Proofs.Fidelity
import Roomwatch.Proofs.Requests
import Roomwatch.Proofs.Interleaving
import Roomwatch.Proofs.Flights
import Roomwatch.Proofs.Seats
import Roomwatch.Proofs.Changes
import Roomwatch.Proofs.Bare
import Roomwatch.Proofs.Isolation
import Roomwatch.Proofs.Grammar
import Roomwatch.Proofs.Hosting
import Roomwatch.Proofs.Gathering
import Roomwatch.Proofs.Unsigned
import Roomwatch.Proofs.Visits
import Roomwatch.Proofs.Residence
import Roomwatch.Proofs.Queries
import Roomwatch.Proofs.Lifetimes
import Roomwatch.Proofs.Torn
import Roomwatch.Proofs.LineByLine
import Roomwatch.Proofs.Starts
import Roomwatch.Proofs.Registrations
import Roomwatch.Proofs.Crew
import Roomwatch.Proofs.Loading
import Roomwatch.Proofs.Sharing
import Roomwatch.Proofs.Captures
import Roomwatch.Proofs.Aggregates
import Roomwatch.Proofs.Refusals
import Roomwatch.Proofs.Serving
