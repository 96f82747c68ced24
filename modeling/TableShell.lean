import TableShell.Main
import TableShell.Proofs.CharacterRanges
import TableShell.Proofs.Persistence
import TableShell.Proofs.JoinAssociativity
import TableShell.Proofs.RowOrder
import TableShell.Proofs.TokenBuffer
import TableShell.Proofs.ReloadedFiles
import TableShell.Proofs.StatementText
import TableShell.Proofs.Prompts
import TableShell.Proofs.TableOrder
import TableShell.Proofs.StoredAnswers
import TableShell.Proofs.StatementFrames
import TableShell.Proofs.LimitedOutput
import TableShell.Proofs.LineEnds
import TableShell.Proofs.FiniteSteps
import TableShell.Proofs.UnreadLines
import TableShell.Proofs.LinesRead
import TableShell.Proofs.Cursor
import TableShell.Proofs.ColumnCells
import TableShell.Proofs.ColumnPositions
import TableShell.Proofs.CheckedStatements
import TableShell.Proofs.InBounds
import TableShell.Proofs.OpenedFiles
import TableShell.Proofs.SilentSessions
import TableShell.Proofs.JoinedTables
import TableShell.Proofs.SelectedTables
import TableShell.Proofs.FileFields
import TableShell.Proofs.RefusedTokens
import TableShell.Proofs.FilteredJoins
import TableShell.Proofs.SelectFaults
import TableShell.Proofs.FileFaults
import TableShell.Proofs.ProjectedJoins
import TableShell.Proofs.JoinConditions
