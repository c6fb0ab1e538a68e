import SolverDeck.Main
import SolverDeck.Proofs.Case.Applying
import SolverDeck.Proofs.Command.ExitCode
import SolverDeck.Proofs.Command.Output
import SolverDeck.Proofs.Command.Preview
import SolverDeck.Proofs.Session.Poisoned
import SolverDeck.Proofs.Session.Stores
import SolverDeck.Proofs.Session.Sweeps
import SolverDeck.Proofs.Session.Targets
import SolverDeck.Proofs.Session.Ways
import SolverDeck.Proofs.Store.History
import SolverDeck.Proofs.Store.Order
import SolverDeck.Proofs.Writing.Again
import SolverDeck.Proofs.Writing.Decks
import SolverDeck.Proofs.Writing.Frame
import SolverDeck.Proofs.Decimal.Characters
import SolverDeck.Proofs.Value.Texts
import SolverDeck.Proofs.Deck.Lines
import SolverDeck.Proofs.Json.Series
import SolverDeck.Proofs.Json.Pieces
import SolverDeck.Proofs.Json.Literal
import SolverDeck.Proofs.Json.Tree
import SolverDeck.Proofs.Case.Tree
import SolverDeck.Proofs.Case.Faults
import SolverDeck.Proofs.Json.Whole
import SolverDeck.Proofs.Case.Spelling
import SolverDeck.Proofs.Binary64.Position
import SolverDeck.Proofs.Binary64.Rounding
import SolverDeck.Proofs.Binary64.Error
import SolverDeck.Proofs.Decimal.Span
import SolverDeck.Proofs.Decimal.Shortest
import SolverDeck.Proofs.Json.Spelled
import SolverDeck.Proofs.Decimal.Spelling
import SolverDeck.Proofs.Binary64.Arithmetic
import SolverDeck.Proofs.Json.Scaling
import SolverDeck.Proofs.Value.Numbers
import SolverDeck.Proofs.Case.Numbers
import SolverDeck.Proofs.Command.Files
import SolverDeck.Proofs.Command.Again
import SolverDeck.Proofs.Command.Cause
import SolverDeck.Proofs.Command.Logging
import SolverDeck.Proofs.Deck.Collisions
import SolverDeck.Proofs.Value.Leaves
import SolverDeck.Proofs.Json.Numeral
import SolverDeck.Proofs.Writing.Events
import SolverDeck.Proofs.Value.Integers
import SolverDeck.Proofs.Case.Integers
import SolverDeck.Proofs.Case.Again
import SolverDeck.Proofs.Field.Lookup
import SolverDeck.Proofs.Value.Spelling
import SolverDeck.Proofs.Decimal.Closest
import SolverDeck.Proofs.Value.Reals
import SolverDeck.Proofs.Binary64.Equality
import SolverDeck.Proofs.Value.Equality
import SolverDeck.Proofs.Store.Equality
import SolverDeck.Proofs.Command.Orders
