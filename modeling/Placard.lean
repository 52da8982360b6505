import Placard.ColorToken
import Placard.Config
import Placard.Config.Override
import Placard.Context
import Placard.Facts
import Placard.Failure
import Placard.Info.Amount
import Placard.Info.Cache
import Placard.Info.Module
import Placard.Info.Resolve
import Placard.Info.Value
import Placard.Layout
import Placard.Number.Fixed
import Placard.Number.Real
import Placard.Number.Size
import Placard.Number.Unsigned
import Placard.OpenStyles
import Placard.Provider
import Placard.Provider.Environment
import Placard.Provider.Snapshot
import Placard.Render
import Placard.RichText
import Placard.RichText.Notation
import Placard.RichText.Sgr
import Placard.Style
import Placard.Style.Blend
import Placard.Template.Body
import Placard.Template.Draft
import Placard.Template.Edit
import Placard.Template.Evaluate
import Placard.Template.Quote
import Placard.Template.Reader
import Placard.Terminal
import Placard.Text.Blank
import Placard.Text.Grapheme
import Placard.Text.Grapheme.Property
import Placard.Text.Hex
import Placard.Text.Metrics
import Placard.Text.Property
import Placard.Text.Quoted
import Placard.Text.Quoted.Property
import Placard.Text.Search
import Placard.Text.Unicode
import Placard.Text.Width
import Placard.Text.Width.Property
import Placard.VolumeTypes
import Placard.Proofs.Eval
import Placard.Proofs.Draft
import Placard.Proofs.Grammar
import Placard.Proofs.PlainText
import Placard.Proofs.Untaken
import Placard.Proofs.SinglePass
import Placard.Proofs.Simulation
import Placard.Proofs.ColorTag
import Placard.Proofs.TreeSimulation
import Placard.Proofs.Quoted
import Placard.Proofs.Members
import Placard.Proofs.Coupling
import Placard.Proofs.TemplateCoupling
import Placard.Proofs.Render
import Placard.Proofs.Colorless
import Placard.Proofs.MissingMark
import Placard.Proofs.Screen
import Placard.Proofs.SeparatorReset
import Placard.Proofs.Summaries
import Placard.Proofs.Remembered
import Placard.Proofs.History
import Placard.Proofs.Retained
import Placard.Proofs.Steps
import Placard.Proofs.Finishing
import Placard.Proofs.Nesting
import Placard.Proofs.Ranges
import Placard.Proofs.Openings
import Placard.Proofs.Places
import Placard.Proofs.Standing
import Placard.Proofs.MostRecent
import Placard.Proofs.SetAside
import Placard.Proofs.WellFormed
import Placard.Proofs.Alignment
import Placard.Proofs.Values
import Placard.Proofs.MissingLines
import Placard.Proofs.AutoColors
import Placard.Proofs.ArtColors
import Placard.Proofs.Selection
import Placard.Proofs.Listing
import Placard.Proofs.Uncolored
import Placard.Proofs.Renewed
import Placard.Proofs.Concatenation
import Placard.Proofs.VolumeStrings
import Placard.Proofs.Shown
import Placard.Proofs.Computed
import Placard.Proofs.VolumeAmounts
import Placard.Proofs.LaidSpan
import Placard.Proofs.Awaited
import Placard.Proofs.Conditions
import Placard.Proofs.Continuation
import Placard.Proofs.Unclosed
import Placard.Proofs.EditedStyles
import Placard.Proofs.Sessions
import Placard.Proofs.DiskTags
import Placard.Proofs.SummaryParts
import Placard.Proofs.SummaryTexts
import Placard.Proofs.Overrides
import Placard.Proofs.Runs
import Placard.Proofs.HexColors
