import OutlineMarkup.Proofs.Drafts
import OutlineMarkup.Proofs.Outlines
import OutlineMarkup.Proofs.ParentLaw
import OutlineMarkup.Settings.Load
import OutlineMarkup.Summary
import OutlineMarkup.Proofs.Pruning
import OutlineMarkup.Proofs.BlankLines
import OutlineMarkup.Proofs.SerialText
import OutlineMarkup.Proofs.Marks
import OutlineMarkup.Proofs.Chains
import OutlineMarkup.Proofs.ContinuedLines
import OutlineMarkup.Proofs.DocumentOrder
import OutlineMarkup.Proofs.Margins
import OutlineMarkup.Proofs.Verbatim
import OutlineMarkup.Proofs.Calls
import OutlineMarkup.Proofs.Rooted
import OutlineMarkup.Proofs.Sequence
import OutlineMarkup.Proofs.Wrapping
import OutlineMarkup.Proofs.FaultLines
import OutlineMarkup.Proofs.RunMargins
import OutlineMarkup.Proofs.FirstDefect
import OutlineMarkup.Proofs.WrittenElements
import OutlineMarkup.Proofs.NestedTags
import OutlineMarkup.Proofs.LineWidths
import OutlineMarkup.Proofs.ElementGrammar
import OutlineMarkup.Proofs.ListEntries
import OutlineMarkup.Proofs.ListSpacing
import OutlineMarkup.Proofs.RenderedAttributes
import OutlineMarkup.Proofs.AddedAttributes
import OutlineMarkup.Proofs.PlantedApart
import OutlineMarkup.Proofs.ReferencePattern
import OutlineMarkup.Proofs.ControlSpacing
import OutlineMarkup.Proofs.NestedCalls
import OutlineMarkup.Proofs.TwoStacks
import OutlineMarkup.Proofs.SummarizedTrees
import OutlineMarkup.Proofs.SettingPrecedence
