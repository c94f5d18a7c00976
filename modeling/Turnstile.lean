import Turnstile.Manager
import Turnstile.Catalog.Wire
import Turnstile.Role.Wire
import Turnstile.Report
import Turnstile.Config.Load
import Turnstile.Proofs.CatalogSteps
import Turnstile.Proofs.Transactions
import Turnstile.Proofs.NamedPairs
import Turnstile.Proofs.StoredNames
import Turnstile.Proofs.Saves
import Turnstile.Proofs.TableAccess
import Turnstile.Proofs.QueryScope
import Turnstile.Proofs.CacheKeys
import Turnstile.Proofs.Holdings
import Turnstile.Proofs.RowFilters
import Turnstile.Proofs.PairUpkeep
import Turnstile.Proofs.RolePasses
import Turnstile.Proofs.RepeatedPasses
import Turnstile.Proofs.TierOrder
import Turnstile.Proofs.JsonText
import Turnstile.Proofs.JsonNumbers
import Turnstile.Proofs.StatedClaims
import Turnstile.Proofs.SignedText
import Turnstile.Proofs.GuestTokens
import Turnstile.Proofs.AccessChecks
import Turnstile.Proofs.WiderRoles
import Turnstile.Proofs.GuestGrants
import Turnstile.Proofs.QuietUpkeep
import Turnstile.Proofs.FailedPasses
import Turnstile.Proofs.SparingWrites
import Turnstile.Proofs.PublicRole
import Turnstile.Proofs.RevokedGrants
import Turnstile.Proofs.ResourceNames
import Turnstile.Proofs.SingleGrants
import Turnstile.Proofs.SchemaListing
import Turnstile.Proofs.DatasourceListing
import Turnstile.Proofs.TableListing
import Turnstile.Proofs.QueryVerdicts
import Turnstile.Proofs.RoleCopies
import Turnstile.Proofs.DanglingPairs
import Turnstile.Proofs.MissingPairs
import Turnstile.Proofs.AcceptedTokens
import Turnstile.Proofs.PatternMatches
import Turnstile.Proofs.PatternReaders
import Turnstile.Proofs.ClosedPatterns
import Turnstile.Proofs.PrefixPatterns
import Turnstile.Proofs.Embeddings
import Turnstile.Proofs.DefaultSchemas
import Turnstile.Proofs.BlankSchemas
import Turnstile.Proofs.LayeredSettings
