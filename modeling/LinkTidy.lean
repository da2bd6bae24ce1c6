import LinkTidy.Main
import LinkTidy.Cache
import LinkTidy.Proofs.Cleaner.RuleSets
import LinkTidy.Proofs.Cleaner.Settled
import LinkTidy.Proofs.FilterList.Scope
import LinkTidy.Proofs.Rule.Repeats
import LinkTidy.Proofs.Store.Cancellation
import LinkTidy.Proofs.Store.History
import LinkTidy.Proofs.Url.Candidates
import LinkTidy.Proofs.Url.Separators
import LinkTidy.Proofs.Cleaner.Separators
import LinkTidy.Proofs.FilterList.Options
import LinkTidy.Proofs.FilterList.Meanings
import LinkTidy.Proofs.FilterList.RuleTexts
import LinkTidy.Proofs.Command.Flags
import LinkTidy.Proofs.Command.Sources
import LinkTidy.Proofs.Command.Lines
import LinkTidy.Proofs.Store.Repetition
import LinkTidy.Proofs.Rule.SecondRun
import LinkTidy.Proofs.Cleaner.EarlyStop
import LinkTidy.Proofs.Url.Partition
import LinkTidy.Proofs.Cleaner.Checked
import LinkTidy.Proofs.Url.BareSchemes
import LinkTidy.Proofs.Url.Assembly
import LinkTidy.Proofs.FilterList.Forms
import LinkTidy.Proofs.FilterList.Scans
import LinkTidy.Proofs.FilterList.HostLines
import LinkTidy.Proofs.FilterList.Products
import LinkTidy.Proofs.Regex.Search
import LinkTidy.Proofs.Unicode.CaseFold
import LinkTidy.Proofs.Regex.Starred
import LinkTidy.Proofs.Regex.Pieces
import LinkTidy.Proofs.FilterList.Wildcards
import LinkTidy.Proofs.FilterList.LineEnds
import LinkTidy.Proofs.Rule.FirstSeen
import LinkTidy.Proofs.Command.Options
import LinkTidy.Proofs.FilterList.ShownLines
import LinkTidy.Proofs.Command.Compilation
import LinkTidy.Proofs.Config.Period
import LinkTidy.Proofs.Cache.Copies
import LinkTidy.Proofs.Config.Resolved
import LinkTidy.Proofs.Url.Shapes
