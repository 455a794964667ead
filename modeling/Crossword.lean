import Crossword.Folder
import Crossword.Main
import Crossword.Proofs.Admissible
import Crossword.Proofs.Completeness
import Crossword.Proofs.Counting
import Crossword.Proofs.Courses
import Crossword.Proofs.Effort
import Crossword.Proofs.History
import Crossword.Proofs.Infeasible
import Crossword.Proofs.Outcomes
import Crossword.Proofs.Ownership
import Crossword.Proofs.Reach
import Crossword.Proofs.Runs
import Crossword.Proofs.SearchSteps
import Crossword.Proofs.Soundness
import Crossword.Proofs.Squares
import Crossword.Proofs.Totals
import Crossword.Proofs.Attempts
import Crossword.Proofs.Trimming
import Crossword.Proofs.Results
import Crossword.Proofs.Interlocking
import Crossword.Proofs.MoreAttempts
import Crossword.Proofs.Exhaustion
import Crossword.Proofs.Crossings
import Crossword.Proofs.Calls
import Crossword.Proofs.Translation
import Crossword.Proofs.ClueLookup
import Crossword.Proofs.Ledger
import Crossword.Proofs.Truncation
import Crossword.Proofs.Balance
import Crossword.Proofs.Reruns
import Crossword.Proofs.FirstFault
import Crossword.Proofs.CanonicalTrim
import Crossword.Proofs.SharedLetters
import Crossword.Proofs.GridText
import Crossword.Proofs.Listing
import Crossword.Proofs.Starts
import Crossword.Proofs.WrittenLists
import Crossword.Proofs.Fitting
import Crossword.Proofs.Timing
