import GlyphConsole.Framebuffer.Basic
import GlyphConsole.Machine.Interrupts
import GlyphConsole.Machine.IntervalTimer
import GlyphConsole.Machine.Serial
import GlyphConsole.Picture
import GlyphConsole.Terminal
import GlyphConsole.Proofs.Window
import GlyphConsole.Proofs.Writing
import GlyphConsole.Proofs.Operations
import GlyphConsole.Proofs.Shadow
import GlyphConsole.Proofs.Twins
import GlyphConsole.Proofs.Blinking
import GlyphConsole.Proofs.Page
import GlyphConsole.Proofs.Calls
import GlyphConsole.Proofs.Raster
import GlyphConsole.Proofs.Mirror
import GlyphConsole.Proofs.CursorInView
import GlyphConsole.Proofs.DirectPainting
import GlyphConsole.Proofs.Rejoining
import GlyphConsole.Proofs.Retracing
import GlyphConsole.Proofs.CommandLine
import GlyphConsole.Proofs.Delivery
import GlyphConsole.Proofs.RowsFit
import GlyphConsole.Proofs.ShellWork
import GlyphConsole.Proofs.Echo
import GlyphConsole.Proofs.Forgetting
import GlyphConsole.Proofs.Cutting
import GlyphConsole.Proofs.InputAlone
import GlyphConsole.Proofs.WholeLines
import GlyphConsole.Proofs.FreshPrompt
import GlyphConsole.Proofs.Paging
import GlyphConsole.Proofs.Remembering
import GlyphConsole.Proofs.Delays
import GlyphConsole.Proofs.DueTimes
import GlyphConsole.Proofs.Splitting
import GlyphConsole.Proofs.Retention
import GlyphConsole.Proofs.Numbering
import GlyphConsole.Proofs.Following
