import ClassDiagram.Main
import ClassDiagram.Workspace
import ClassDiagram.Proofs.Reading.Placement
import ClassDiagram.Proofs.Drawing.Trace
import ClassDiagram.Proofs.Drawing.TreeFaults
import ClassDiagram.Proofs.Drawing.TwoPass
import ClassDiagram.Proofs.Text.Signs
import ClassDiagram.Proofs.Printing.Canonical
import ClassDiagram.Proofs.Printing.TypeText
import ClassDiagram.Proofs.Printing.PrintedMembers
import ClassDiagram.Proofs.Printing.RoundTrip
import ClassDiagram.Proofs.Reading.Lookahead
import ClassDiagram.Proofs.Reading.SkippedParts
import ClassDiagram.Proofs.Reading.LocalTypes
import ClassDiagram.Proofs.Reading.LocalEnumerations
import ClassDiagram.Proofs.Reading.LocalSteps
import ClassDiagram.Proofs.Reading.Attributes
import ClassDiagram.Proofs.Reading.MatchedBraces
import ClassDiagram.Proofs.Source.BlankedLines
import ClassDiagram.Proofs.Drawing.MarkerLines
import ClassDiagram.Proofs.Drawing.NestedDocuments
import ClassDiagram.Proofs.Source.TriviaPieces
import ClassDiagram.Proofs.Source.Tiling
import ClassDiagram.Proofs.Source.NestedLiterals
import ClassDiagram.Proofs.Source.ContinuedLines
import ClassDiagram.Proofs.Reading.LeadingTrivia
import ClassDiagram.Proofs.Reading.HiddenDirectives
import ClassDiagram.Proofs.Reading.ScopeForms
import ClassDiagram.Proofs.Reading.Concatenation
import ClassDiagram.Proofs.Drawing.FlatOutlines
import ClassDiagram.Proofs.Drawing.SourceOrder
import ClassDiagram.Proofs.Reading.YieldedNames
import ClassDiagram.Proofs.Reading.NameOrder
import ClassDiagram.Proofs.Delivery.PartialWrites
import ClassDiagram.Proofs.Delivery.WrittenFiles
import ClassDiagram.Proofs.Delivery.CommandOutcomes
import ClassDiagram.Proofs.Source.SegmentTokens
import ClassDiagram.Proofs.Reading.RootedScopes
import ClassDiagram.Proofs.Drawing.RootedDocuments
import ClassDiagram.Proofs.Delivery.EntryPoints
import ClassDiagram.Proofs.Json.LosslessOutlines
import ClassDiagram.Proofs.Reading.MethodForms
import ClassDiagram.Proofs.Reading.Initializers
import ClassDiagram.Proofs.Reading.Statements
import ClassDiagram.Proofs.Drawing.FirstFaults
import ClassDiagram.Proofs.Drawing.ModuleNames
import ClassDiagram.Proofs.Source.NestedGroups
import ClassDiagram.Proofs.Source.SettledTexts
import ClassDiagram.Proofs.Source.LiteralForms
import ClassDiagram.Proofs.Source.LexemeForms
import ClassDiagram.Proofs.Source.StrayQuotes
import ClassDiagram.Proofs.Source.SpacedLexemes
import ClassDiagram.Proofs.Source.RawFences
import ClassDiagram.Proofs.Reading.UnlistedMembers
import ClassDiagram.Proofs.Reading.ParameterGrammar
import ClassDiagram.Proofs.Reading.EnumerationForms
import ClassDiagram.Proofs.Files.FoundSources
import ClassDiagram.Proofs.Text.Positions
import ClassDiagram.Proofs.Reading.DeclarationWords
import ClassDiagram.Proofs.Drawing.ReadableFlags
import ClassDiagram.Proofs.Reading.RefusedCauses
import ClassDiagram.Proofs.Delivery.Messages
import ClassDiagram.Proofs.Delivery.ReportLines
import ClassDiagram.Proofs.Reading.ExactGroups
import ClassDiagram.Proofs.Cursor.Safety
import ClassDiagram.Proofs.Cursor.Progress
