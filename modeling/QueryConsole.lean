import QueryConsole.Main
import QueryConsole.Proofs.Backend.Breakdown
import QueryConsole.Proofs.Backend.Recorder
import QueryConsole.Proofs.Console.Command
import QueryConsole.Proofs.Console.Conservation
import QueryConsole.Proofs.Console.DryRun
import QueryConsole.Proofs.Console.Replay
import QueryConsole.Proofs.Console.Transcript
import QueryConsole.Proofs.Console.Words
import QueryConsole.Proofs.Report.Grid
import QueryConsole.Proofs.Script.Dangling
import QueryConsole.Proofs.Script.Quoted
import QueryConsole.Proofs.Script.Resplit
import QueryConsole.Proofs.Session.Assignment
import QueryConsole.Proofs.Session.History
import QueryConsole.Proofs.Session.Loading
import QueryConsole.Proofs.Session.Parameters
import QueryConsole.Proofs.Session.Saving
import QueryConsole.Proofs.Session.Shutdown
import QueryConsole.Proofs.Store.Opening
import QueryConsole.Proofs.Store.Reopening
import QueryConsole.Script.Offsets
import QueryConsole.Proofs.Script.Scanner
import QueryConsole.Proofs.Script.Slices
