import LineFill.Main
import LineFill.Proofs.CheckedFiller
import LineFill.Proofs.Content
import LineFill.Proofs.Diagnostics
import LineFill.Proofs.FirstFitLines
import LineFill.Proofs.FlagsAndVariables
import LineFill.Proofs.Framing
import LineFill.Proofs.Recurrence
import LineFill.Proofs.Refilling
import LineFill.Proofs.TableEntries
import LineFill.Proofs.TrailingBlanks
import LineFill.Proofs.UnicodeOffsets
import LineFill.Proofs.WideChunk
