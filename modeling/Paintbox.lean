import Paintbox.Folder
import Paintbox.Gateway
import Paintbox.Main
import Paintbox.Proofs.Figure.Rectangle
import Paintbox.Proofs.Figure.Words
import Paintbox.Proofs.Gateway.Colors
import Paintbox.Proofs.Oval.Extremes
import Paintbox.Proofs.Oval.Midpoints
import Paintbox.Proofs.Oval.Moved
import Paintbox.Proofs.Pixmap.Cells
import Paintbox.Proofs.Pixmap.Crop
import Paintbox.Proofs.Program
import Paintbox.Proofs.Registry.Reissue
import Paintbox.Proofs.Registry.Search
import Paintbox.Proofs.Segment.Places
import Paintbox.Proofs.Session.Failure
import Paintbox.Proofs.Session.Lettering
import Paintbox.Proofs.Session.Objects
import Paintbox.Proofs.Session.Offscreen
import Paintbox.Proofs.Session.Paths
import Paintbox.Proofs.Session.Picture
import Paintbox.Proofs.Session.Readback
import Paintbox.Proofs.Session.Registers
import Paintbox.Proofs.Session.Restart
import Paintbox.Proofs.Session.Scene
import Paintbox.Proofs.Session.Selections
import Paintbox.Proofs.Session.Stranded
import Paintbox.Proofs.Settings.Layout
import Paintbox.Proofs.Transfer.Agreement
import Paintbox.Proofs.Transfer.Boxes
import Paintbox.Proofs.Transfer.Flips
import Paintbox.Proofs.Transfer.Passes
import Paintbox.Proofs.Transfer.Reference
import Paintbox.Proofs.Transfer.Scaling
