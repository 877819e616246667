import LineControl.Main
import LineControl.Samples
import LineControl.File.Glyph
import LineControl.Proofs.Faults
import LineControl.Proofs.Turns
import LineControl.Proofs.Pairing
import LineControl.Proofs.Skip
import LineControl.Proofs.LoopStack
import LineControl.Proofs.LoopFaults
import LineControl.Proofs.Block
import LineControl.Proofs.Meaning
import LineControl.Proofs.Grammar
import LineControl.Proofs.Box
import LineControl.Proofs.Sequence
import LineControl.Proofs.Detection
import LineControl.Proofs.Image
import LineControl.Proofs.Numerals
import LineControl.Proofs.Magnitude
import LineControl.Proofs.Slots
import LineControl.Proofs.RecordText
import LineControl.Proofs.Transcript
import LineControl.Proofs.Latch
import LineControl.Proofs.Steering
import LineControl.Proofs.Lockstep
import LineControl.Proofs.Loaded
import LineControl.Proofs.PartialLoad
import LineControl.Proofs.Endless
import LineControl.Proofs.Edges
import LineControl.Proofs.Unrolling
import LineControl.Proofs.Refusal
import LineControl.Proofs.Words
import LineControl.Proofs.Listable
import LineControl.Proofs.Table
import LineControl.Proofs.Legible
import LineControl.Proofs.WholeNumbers
import LineControl.Proofs.Glyphs
