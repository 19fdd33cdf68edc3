import CatalogueViewer.Main
import CatalogueViewer.Proofs.Diagram.Detection
import CatalogueViewer.Proofs.Diagram.Enclosing
import CatalogueViewer.Proofs.Diagram.Repeating
import CatalogueViewer.Proofs.Diagram.Stability
import CatalogueViewer.Proofs.Engine.Repair
import CatalogueViewer.Proofs.Markdown.Agreement
import CatalogueViewer.Proofs.Render.Bursts
import CatalogueViewer.Proofs.Render.Exclusion
import CatalogueViewer.Proofs.Source.Envelopes
import CatalogueViewer.Proofs.Source.Opening
import CatalogueViewer.Proofs.Source.Payloads
import CatalogueViewer.Proofs.Tree.Cycles
import CatalogueViewer.Proofs.Tree.Flattening
import CatalogueViewer.Proofs.Tree.Layout
import CatalogueViewer.Proofs.Tree.Recursion
import CatalogueViewer.Proofs.Viewport.Lifecycle
import CatalogueViewer.Proofs.Engine.Balance
import CatalogueViewer.Proofs.Markdown.Headings
import CatalogueViewer.Proofs.Text.Framing
import CatalogueViewer.Proofs.Markdown.Remainders
import CatalogueViewer.Proofs.Markdown.Splitting
import CatalogueViewer.Proofs.Engine.Drawing
import CatalogueViewer.Proofs.Diagram.Growth
import CatalogueViewer.Proofs.Settings.Excerpts
