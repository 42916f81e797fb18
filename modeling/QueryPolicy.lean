import QueryPolicy.Config.Load
import QueryPolicy.Policy.Session
import QueryPolicy.Proofs.Policy.Configured
import QueryPolicy.Proofs.Policy.Meaning
import QueryPolicy.Proofs.Policy.Replacement
import QueryPolicy.Proofs.Except
import QueryPolicy.Proofs.Query.Conversion
import QueryPolicy.Proofs.Policy.Validation
import QueryPolicy.Proofs.Config.Layers
import QueryPolicy.Proofs.Config.Kept
import QueryPolicy.Proofs.Policy.Session
import QueryPolicy.Proofs.Policy.Union
import QueryPolicy.Proofs.Expr.Equality
import QueryPolicy.Proofs.Expr.Written
import QueryPolicy.Proofs.Policy.EmptyEntries
import QueryPolicy.Proofs.Config.Nearest
import QueryPolicy.Proofs.Config.Grammar
import QueryPolicy.Proofs.Config.Override
import QueryPolicy.Proofs.Expr.Search
import QueryPolicy.Proofs.Policy.CanonicalSets
import QueryPolicy.Proofs.Policy.Message
