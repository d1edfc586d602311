import VncFlinger.Library.Runs
import VncFlinger.Library.Strokes
import VncFlinger.Library.Typing
import VncFlinger.Library.Toggle
import VncFlinger.Library.Outcomes
import VncFlinger.Library.Alike
import VncFlinger.Library.Doorbell
import VncFlinger.Library.Ledger
import VncFlinger.Library.Framing
import VncFlinger.Library.Transfers
import VncFlinger.Library.Buffers
import VncFlinger.Library.Scaling
import VncFlinger.Library.Rounding
import VncFlinger.Library.Codes
import VncFlinger.Library.ModifiedUtf8
import VncFlinger.Evdev
import VncFlinger.Input.Keyboard
import VncFlinger.Input.HeldKeys
import VncFlinger.Input.Shift
import VncFlinger.Input.Supported
import VncFlinger.Input.Pointer
import VncFlinger.Input.Buttons
import VncFlinger.Input.Tracking
import VncFlinger.Input.Opening
import VncFlinger.Input.Descriptors
import VncFlinger.Input.Legality
import VncFlinger.Input.Mouse
import VncFlinger.Input.Reopening
import VncFlinger.Input.Alongside
import VncFlinger.Input.Typing
import VncFlinger.Display.Geometry
import VncFlinger.Display.Single
import VncFlinger.Display.PixelBuffer
import VncFlinger.Display.BufferSize
import VncFlinger.Display.Desktop
import VncFlinger.Display.Consumers
import VncFlinger.Display.Letterbox
import VncFlinger.Display.Proportions
import VncFlinger.Display.Endings
import VncFlinger.Display.Telling
import VncFlinger.Display.Pointer
import VncFlinger.Display.Viewport
import VncFlinger.Display.Injection
import VncFlinger.Display.Reach
import VncFlinger.Display.Cursor
import VncFlinger.Display.Sizes
import VncFlinger.Display.Copying
import VncFlinger.Display.Restarts
import VncFlinger.Display.WindowSize
import VncFlinger.Display.Matching
import VncFlinger.Display.Turning
import VncFlinger.Display.Refusal
import VncFlinger.Service.Command
import VncFlinger.Service.Merge
import VncFlinger.Service.Repeats
import VncFlinger.Service.Resources
import VncFlinger.Service.Sessions
import VncFlinger.Service.Environments
import VncFlinger.Service.Surfaces
import VncFlinger.Service.InStep
import VncFlinger.Service.Clipboard
import VncFlinger.Service.Sharing
import VncFlinger.Service.Cursor
import VncFlinger.Loop.Server
import VncFlinger.Loop.Moves
import VncFlinger.Loop.Wakeups
import VncFlinger.Loop.Delivery
import VncFlinger.Loop.Frames
import VncFlinger.Loop.Backlog
import VncFlinger.Loop.Order
import VncFlinger.Loop.Startup
import VncFlinger.Loop.Quitting
import VncFlinger.Loop.Spinning
import VncFlinger.Audio.Sockets
import VncFlinger.Audio.Streamer
import VncFlinger.Audio.Sending
import VncFlinger.Audio.Closing
import VncFlinger.Audio.Initialising
import VncFlinger.Audio.Stopping
import VncFlinger.Audio.Options
import VncFlinger.Addresses
import VncFlinger.Arguments
