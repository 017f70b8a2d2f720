import FilterQuery.Journals
import FilterQuery.Main
import FilterQuery.QueryReading
import FilterQuery.TokenGroups
import FilterQuery.Proofs.FlatFilters
import FilterQuery.Proofs.GroupMembers
import FilterQuery.Proofs.Lexemes
import FilterQuery.Proofs.ScannedTexts
import FilterQuery.Proofs.LiteralValues
import FilterQuery.Proofs.Derivations
import FilterQuery.Proofs.StepwiseReading
import FilterQuery.Proofs.ReadingsFollowSteps
import FilterQuery.Proofs.SpelledStates
import FilterQuery.Proofs.GrammarReading
import FilterQuery.Proofs.BareTexts
import FilterQuery.Proofs.FloatTexts
import FilterQuery.Proofs.CanonicalFilters
import FilterQuery.Proofs.WrittenFilters
import FilterQuery.Proofs.CanonicalRoundTrip
import FilterQuery.Proofs.FirstErrors
import FilterQuery.Proofs.PrintedFilters
import FilterQuery.Proofs.ParserReadings
import FilterQuery.Proofs.PassedTokens
import FilterQuery.Proofs.DerivedReadings
import FilterQuery.Proofs.TwoLevelDescent
import FilterQuery.Proofs.TokenTilings
import FilterQuery.Proofs.ParserRestarts
import FilterQuery.Proofs.ConsumedTokens
import FilterQuery.Proofs.ExtendedTexts
import FilterQuery.Proofs.RelabeledTokens
import FilterQuery.Proofs.SpacedQueries
import FilterQuery.Proofs.JoinedQueries
import FilterQuery.Proofs.PipedChecks
import FilterQuery.Proofs.ReadingPlaces
import FilterQuery.Proofs.DerivationsRead
import FilterQuery.Proofs.NestingLimit
import FilterQuery.Proofs.ErrorEvidence
import FilterQuery.Proofs.FewestParentheses
import FilterQuery.Proofs.BracketedChains
import FilterQuery.Proofs.RespelledQueries
import FilterQuery.Proofs.DelimitedTexts
import FilterQuery.Proofs.DistinctJson
import FilterQuery.Proofs.DistinctOutlines
import FilterQuery.Proofs.DistinctListings
import FilterQuery.Proofs.OutlineLines
import FilterQuery.Proofs.SameFilters
import FilterQuery.Proofs.FloatConversions
import FilterQuery.Proofs.ScannerSafety
import FilterQuery.Proofs.SuccessiveTokens
import FilterQuery.Proofs.JournaledTokens
