import ThemedShell.Main
import ThemedShell.Output.Scrollback
import ThemedShell.Proofs.CurrentDirectory
import ThemedShell.Proofs.Failure
import ThemedShell.Proofs.Resolution
import ThemedShell.Proofs.Routing
import ThemedShell.Proofs.ShellLoop
import ThemedShell.Proofs.Operations
import ThemedShell.Proofs.FlagGrammar
import ThemedShell.Proofs.Listing
import ThemedShell.Proofs.Start
import ThemedShell.Proofs.Fallback
import ThemedShell.Proofs.InputField
import ThemedShell.Proofs.Presentation
import ThemedShell.Proofs.Creation
import ThemedShell.Proofs.Interference
import ThemedShell.Proofs.BrokenTerminal
import ThemedShell.Proofs.HomePath
import ThemedShell.Proofs.Rendering
import ThemedShell.Proofs.LineGrammar
import ThemedShell.Proofs.CanonicalPath
import ThemedShell.Proofs.Spelling
import ThemedShell.Proofs.RelativePath
import ThemedShell.Proofs.Utf8
import ThemedShell.Proofs.ListingEntries
import ThemedShell.Proofs.Tilde
import ThemedShell.Proofs.ColorNames
import ThemedShell.Proofs.SingleLines
