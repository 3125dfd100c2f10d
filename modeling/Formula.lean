import Formula.Main
import Formula.Expr.Postorder
import Formula.Log
import Formula.Scanner.Words
import Formula.Scanner.Parse
import Formula.Proofs.Cursor
import Formula.Proofs.Grammar
import Formula.Proofs.Grammar.Symbols
import Formula.Proofs.Grammar.Complete
import Formula.Proofs.Grammar.Sound
import Formula.Proofs.BreakingOff
import Formula.Proofs.Constants
import Formula.Proofs.Bracketed
import Formula.Proofs.FullForm
import Formula.Proofs.Domain.Ring
import Formula.Proofs.Expr.Value
import Formula.Proofs.MinimalForm
import Formula.Proofs.Regrouping
import Formula.Proofs.Domain.CheckedInt
import Formula.Proofs.Domain.Trapping
import Formula.Proofs.Overflow
import Formula.Proofs.CheckedMinimalForm
import Formula.Proofs.Reprinting
import Formula.Proofs.Grammar.Continuation
import Formula.Proofs.Scanner.ListCursor
import Formula.Proofs.Scanner.Words
import Formula.Proofs.Scanner.Lookahead
import Formula.Proofs.Polynomial
import Formula.Proofs.ErrorPositions
import Formula.Proofs.Grammar.Blanks
import Formula.Proofs.Grid
import Formula.Proofs.Table
import Formula.Proofs.Session
import Formula.Proofs.Report
import Formula.Proofs.Recording
import Formula.Proofs.Progress
import Formula.Proofs.LinearWork
import Formula.Proofs.Height
import Formula.Proofs.Residues
import Formula.Proofs.Arranged
import Formula.Proofs.NeededBrackets
import Formula.Proofs.Domain.Inverses
import Formula.Proofs.Domain.FieldDivision
import Formula.Proofs.Domain.TruncatedDivision
import Formula.Proofs.CanonicalResidues
import Formula.Proofs.Expr.StackMachine
import Formula.Proofs.Scanner.Matching
import Formula.Proofs.Scanner.Parse
