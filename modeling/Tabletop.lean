import Tabletop.Dice.Source
import Tabletop.Fixture
import Tabletop.Main
import Tabletop.Proofs.Command.Cycles
import Tabletop.Proofs.Command.Eval
import Tabletop.Proofs.Dependency.CallClosure
import Tabletop.Proofs.Dependency.CyclePath
import Tabletop.Proofs.Dependency.Locality
import Tabletop.Proofs.Dependency.Rolls
import Tabletop.Proofs.Dice.Printing
import Tabletop.Proofs.Dice.Throw
import Tabletop.Proofs.Document.Nulls
import Tabletop.Proofs.Document.Numbered
import Tabletop.Proofs.Evaluation.ForwardReferences
import Tabletop.Proofs.Evaluation.Termination
import Tabletop.Proofs.Evaluation.Wrapper
import Tabletop.Proofs.Rule.Ownership
import Tabletop.Proofs.Rule.Summation
import Tabletop.Proofs.Sheet.Activation
import Tabletop.Proofs.Sheet.Extension
import Tabletop.Proofs.Sheet.Listing
import Tabletop.Proofs.Sheet.Reload
import Tabletop.Proofs.Sheet.WellFormed
import Tabletop.Proofs.Stored.Survival
import Tabletop.Text.Quoted
