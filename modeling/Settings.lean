import Settings.Main
import Settings.Text.Utf8
import Settings.Proofs.KeyOrder
import Settings.Proofs.Flags
import Settings.Proofs.Unseen
import Settings.Proofs.Reloading
import Settings.Proofs.Unsaved
import Settings.Proofs.Footprint
import Settings.Proofs.Overrides
import Settings.Proofs.FixedPoint
import Settings.Proofs.Text.Blank
import Settings.Proofs.Text.Normal
import Settings.Proofs.Searching
import Settings.Proofs.Instantiation
import Settings.Proofs.Writing
import Settings.Proofs.Keywords
import Settings.Proofs.Pieces
import Settings.Proofs.Changes
import Settings.Proofs.Restoring
import Settings.Proofs.Typing
import Settings.Proofs.Commands
import Settings.Proofs.Defects
import Settings.Proofs.Independence
