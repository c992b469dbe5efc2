import Marginalia.CommandLine
import Marginalia.Main
import Marginalia.Proofs.LineFeeds
import Marginalia.Proofs.Returns
import Marginalia.Proofs.Escape
import Marginalia.Proofs.Faithful
import Marginalia.Proofs.SpanCuts
import Marginalia.Proofs.DividerRoundTrip
import Marginalia.Proofs.DividerLines
import Marginalia.Proofs.BlockScan
import Marginalia.Proofs.LineBlocks
import Marginalia.Proofs.Fallbacks
import Marginalia.Proofs.LineFidelity
import Marginalia.Proofs.PrintedLines
import Marginalia.Proofs.PrintedBlocks
import Marginalia.Proofs.Continuation
import Marginalia.Proofs.LineEndings
import Marginalia.Proofs.PlainCode
import Marginalia.Proofs.EmphasisPlaces
import Marginalia.Proofs.Decoding
import Marginalia.Proofs.StoreWrites
import Marginalia.Proofs.PageFiles
import Marginalia.Proofs.SourcePages
import Marginalia.Proofs.BatchIsolation
import Marginalia.Batch.Jobs
import Marginalia.Proofs.BatchJobs
import Marginalia.Proofs.WrittenPages
import Marginalia.Process.Exchange
import Marginalia.Proofs.PipeProgress
import Marginalia.Proofs.PageNames
import Marginalia.Proofs.PathOrder
import Marginalia.Proofs.Entities
import Marginalia.Proofs.PageMenu
import Marginalia.Proofs.Listing
import Marginalia.Proofs.PatternSearch
import Marginalia.Proofs.PatternText
import Marginalia.Proofs.PathSteps
import Marginalia.Proofs.CommentPattern
import Marginalia.Proofs.DividerPattern
import Marginalia.Proofs.Gutters
import Marginalia.Proofs.Registrations
import Marginalia.Proofs.BlankDocuments
import Marginalia.Proofs.ConfigEntries
import Marginalia.Proofs.Layers
