import DroolsInk.Main
import DroolsInk.Buffer.Relex
import DroolsInk.Proofs.Tiling
import DroolsInk.Proofs.Restart
import DroolsInk.Proofs.Words
import DroolsInk.Proofs.Lookahead
import DroolsInk.Proofs.Relex
import DroolsInk.Proofs.Repaint
import DroolsInk.Proofs.Truncation
import DroolsInk.Proofs.Parts
import DroolsInk.Proofs.MaximalMunch
import DroolsInk.Proofs.Painting
import DroolsInk.Proofs.Spacing
import DroolsInk.Proofs.ReadBack
import DroolsInk.Proofs.Window
import DroolsInk.Proofs.Resync
import DroolsInk.Proofs.Lookup
import DroolsInk.Proofs.Closing
import DroolsInk.Proofs.Comments
import DroolsInk.Proofs.LongestNumber
import DroolsInk.Proofs.Keywords
import DroolsInk.Proofs.ByteOrder
import DroolsInk.Proofs.AscendingSearch
import DroolsInk.Proofs.Boundaries
import DroolsInk.Proofs.LineLookup
import DroolsInk.Proofs.LineFeeds
import DroolsInk.Proofs.Places
import DroolsInk.Proofs.SettingsFaults
import DroolsInk.Proofs.UniqueKeys
import DroolsInk.Proofs.FileNames
import DroolsInk.Proofs.ColumnBounds
import DroolsInk.Proofs.WordOffsets
import DroolsInk.Proofs.CommandLine
