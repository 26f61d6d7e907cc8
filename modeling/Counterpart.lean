import Counterpart.Cell.Bench
import Counterpart.Expansion
import Counterpart.Sample.Programs
import Counterpart.Session
import Counterpart.CachedSession
import Counterpart.Proofs.MemberTable
import Counterpart.Proofs.Blame
import Counterpart.Proofs.Linking
import Counterpart.Proofs.Resolution
import Counterpart.Sample.Chain
import Counterpart.Proofs.Custody
import Counterpart.Proofs.Scope
import Counterpart.Proofs.CellCustody
import Counterpart.Proofs.FunctionCustody
import Counterpart.Proofs.Ownership
import Counterpart.Proofs.OptionCell
import Counterpart.Proofs.PropertyStore
import Counterpart.Proofs.LastWrite
import Counterpart.Proofs.InternalErrors
import Counterpart.Proofs.ModuleExpansion
import Counterpart.Proofs.BrokenTemplate
import Counterpart.Proofs.Assembly
import Counterpart.Proofs.DistinctNames
import Counterpart.Proofs.FieldConditions
import Counterpart.Proofs.Unfolding
import Counterpart.Proofs.HostConditions
import Counterpart.Proofs.Stripping
import Counterpart.Proofs.Rejection
import Counterpart.Proofs.SessionRuns
import Counterpart.Proofs.ClosedCode
import Counterpart.Proofs.HostSurvival
import Counterpart.Proofs.LocalNames
import Counterpart.Proofs.HostScope
import Counterpart.Proofs.LeavingHost
import Counterpart.Proofs.Respelling
import Counterpart.Proofs.MacroArguments
import Counterpart.Proofs.Collisions
import Counterpart.Proofs.ExclusiveFields
import Counterpart.Proofs.ReplacedInPlace
import Counterpart.Proofs.FormedExpressions
import Counterpart.Proofs.SubstitutedArguments
import Counterpart.Proofs.ScannedDefaults
import Counterpart.Proofs.FormatGrammar
import Counterpart.Proofs.Registration
import Counterpart.Proofs.TableLookups
import Counterpart.Proofs.MarkerUse
import Counterpart.Proofs.PlainSubstitution
