import QueryFilter.Main
import QueryFilter.Token.Check
import QueryFilter.Proofs.Pattern.FieldName
import QueryFilter.Proofs.Pattern.Groups
import QueryFilter.Proofs.Parser.Route
import QueryFilter.Proofs.Parser.Denial
import QueryFilter.Proofs.Date.Timestamp
import QueryFilter.Proofs.Builder
import QueryFilter.Proofs.Grammar
import QueryFilter.Proofs.Parser.Entries
import QueryFilter.Proofs.Token
import QueryFilter.Proofs.Parser.ListFragment
import QueryFilter.Proofs.Parser.OutputKeys
import QueryFilter.Proofs.Parser.OutputGrammar
import QueryFilter.Proofs.Parser.Failure
import QueryFilter.Proofs.Parser.Concatenation
import QueryFilter.Proofs.Parser.ListedOperators
import QueryFilter.Proofs.Parser.OtherValues
import QueryFilter.Proofs.Parser.OutputNames
import QueryFilter.Proofs.Parser.Sigil
import QueryFilter.Proofs.QueryString.RoundTrip
import QueryFilter.Proofs.Parser.Aliases
import QueryFilter.Proofs.Parser.ListSpelling
import QueryFilter.Proofs.Parser.ListAggregation
import QueryFilter.Proofs.Parser.SingletonList
import QueryFilter.Proofs.Parser.Fates
import QueryFilter.Proofs.Parser.Calls
import QueryFilter.Proofs.Parser.ScalarTokens
import QueryFilter.Proofs.Token.SafePattern
import QueryFilter.Proofs.Scalar
import QueryFilter.Proofs.Number.ReadBack
import QueryFilter.Proofs.Number.Shortest
import QueryFilter.Proofs.Number.Layout
import QueryFilter.Proofs.PrintedNumber
import QueryFilter.Proofs.Date.Calendar
import QueryFilter.Proofs.Date.Epoch
import QueryFilter.Proofs.Date.Print
import QueryFilter.Proofs.Date.Order
import QueryFilter.Proofs.Date.Iso
import QueryFilter.Proofs.Date.RoundTrip
import QueryFilter.Proofs.Date.LocalTime
import QueryFilter.Proofs.Builder.Steps
import QueryFilter.Proofs.Builder.Places
import QueryFilter.Proofs.Builder.Between
import QueryFilter.Proofs.QueryString.Joined
import QueryFilter.Proofs.Parser.DecodedFields
import QueryFilter.Proofs.Parser.Construction
import QueryFilter.Proofs.Options.Canonical
import QueryFilter.Proofs.Parser.CanonicalOptions
import QueryFilter.Proofs.CommandLine.Pairs
import QueryFilter.Proofs.CommandLine.Words
import QueryFilter.Proofs.CommandLine.Setup
import QueryFilter.Proofs.CommandLine.Run
