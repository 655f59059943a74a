import QueryTemplate.Main
import QueryTemplate.Proofs.Media
import QueryTemplate.Value.Convert
import QueryTemplate.Proofs.Acceptance
import QueryTemplate.Proofs.SkipSentinel
import QueryTemplate.Proofs.LiteralSafety
import QueryTemplate.Proofs.Defects
import QueryTemplate.Proofs.TextScan
import QueryTemplate.Proofs.DefectReports
import QueryTemplate.Proofs.Accounting
import QueryTemplate.Proofs.Concatenation
import QueryTemplate.Proofs.Completion
import QueryTemplate.Proofs.EscaperCalls
import QueryTemplate.Proofs.EscaperAnswers
import QueryTemplate.Proofs.Resolution
import QueryTemplate.Proofs.LiteralContents
import QueryTemplate.Proofs.Offsets
import QueryTemplate.Proofs.Stages
import QueryTemplate.Proofs.ClosedBlocks
import QueryTemplate.Proofs.Events
import QueryTemplate.Proofs.NumeralGrammar
import QueryTemplate.Proofs.IntegerText
import QueryTemplate.Proofs.Readers
import QueryTemplate.Proofs.ScaledText
import QueryTemplate.Proofs.Interchange
import QueryTemplate.Proofs.StrictEquality
import QueryTemplate.Proofs.PlaceholderRules
import QueryTemplate.Proofs.SinglePlaceholders
import QueryTemplate.Proofs.CountedMaps
import QueryTemplate.Proofs.BackslashEscapes
import QueryTemplate.Proofs.CommandEntries
import QueryTemplate.Proofs.OptionSpellings
import QueryTemplate.Proofs.JsonValues
import QueryTemplate.Proofs.OptionOrder
import QueryTemplate.Proofs.References
import QueryTemplate.Proofs.CharacterBoundaries
import QueryTemplate.Proofs.Int64Conversion
import QueryTemplate.Proofs.ShortestDecimals
import QueryTemplate.Proofs.PlainText
import QueryTemplate.Proofs.Configurations
