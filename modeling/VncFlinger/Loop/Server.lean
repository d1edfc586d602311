import Mathlib.Logic.Function.Basic
import Mathlib.Tactic.Simps.Basic
import VncFlinger.Library.Runs
import VncFlinger.Library.Doorbell

/-!
# The server loop

The loop of `startService`, the callers that notify it, and the VNC server's calls into the
desktop, one atomic step at a time. A caller stores its data, then sets its flag, then adds 1 to the
event descriptor. The loop answers by reading the descriptor and testing the three flags.
-/

namespace VncFlinger.Loop

inductive Flag where
  | cursor | frame | clipboard
  deriving DecidableEq, Repr

/-- A flag of the desktop and the calls under way that will set it (`storing`) or have set it and
not notified yet (`notifying`). `issued` counts the times it was set. -/
structure Signal where
  changed : Bool := false
  storing : ℕ := 0
  notifying : ℕ := 0
  issued : ℕ := 0
  deriving DecidableEq, Repr

/-- The `cur_` members. The buffer is an address. -/
structure Cursor where
  width : UInt32
  height : UInt32
  hotX : Int32
  hotY : Int32
  buffer : UInt64
  deriving DecidableEq, Repr

/-- The constructor leaves `mServer` as it finds it. -/
inductive ServerPointer where
  | uninitialised (nonNull : Bool)
  | started
  deriving DecidableEq, Repr

inductive ClipboardEntry where
  | changed | announced
  deriving DecidableEq, Repr

inductive Phase where
  | handshaking | authenticated | shutdown
  deriving DecidableEq, Repr

/-- `ready` is the socket's bit in the set that `select` has returned. -/
structure Client where
  phase : Phase := .handshaking
  readable : Bool := false
  ready : Bool := false
  deriving DecidableEq, Repr

/-- Where the loop is. `select` remembers whether it waits with a timeout. `deliver` and `announce` are
the parts of `processCursor` and `processClipboard` after the flag is cleared, `update` and `lock` those
of `processFrames`; `crashed` is a call through an `mServer` that was never set. -/
inductive Pc where
  | test | collect | select (timed : Bool) | accept | process | read
  | cursor | deliver | frames | update | lock | clipboard | announce
  | left | crashed
  deriving DecidableEq, Repr

/-- `lastSet`, `delivered`, `clipboardLog` and `lastQueued` record what was stored and what reached
the server, `displays` how many virtual displays there have been. `frames`, `framebuffer` and
`lastQueued` are of the current one. `ready` is the listener's bit in the set that `select` has
returned. -/
structure World (φ : Type) where
  counter : ℕ := 0
  signals : Flag → Signal := fun _ => {}
  cur : Cursor
  lastSet : Option Cursor := none
  delivered : List Cursor := []
  clipboardLog : List ClipboardEntry := []
  frames : List φ := []
  framebuffer : Option φ := none
  lastQueued : Option φ := none
  mServer : ServerPointer
  mVirtualDisplay : Bool := false
  displays : ℕ := 0
  desktopStarted : Bool := false
  clients : List Client := []
  arrivals : ℕ := 0
  ready : Bool := false
  gCaughtSignal : Bool := false
  pc : Pc := .test

/-- What the VNC server makes of a message. `start` and `setScreenLayout` may resize the buffer, and an
exception may leave them. -/
inductive Served where
  | nothing
  | authenticated (resizes started : Bool)
  | layout (resizes throws : Bool)
  | shutdown
  deriving DecidableEq, Repr

/-- What the outside decides at a step of the loop. -/
inductive Choice where
  | next
  | collect (timed : Bool)
  | wake (interrupted : Bool)
  | accept (connected : Bool)
  | serve (served : Served)
  | drop (i : ℕ)
  | update (resizes : Bool)
  deriving DecidableEq, Repr

inductive Event (φ : Type) where
  | setCursor (c : Cursor)
  | notifyClipboardChanged
  | queueFrame (frame : φ)
  | flag (k : Flag)
  | notify (k : Flag)
  | quit
  | connect
  | send (i : ℕ)
  | loop (choice : Choice)
  deriving DecidableEq, Repr

variable {φ : Type}

/-! ### The callers -/

def Signal.store (s : Signal) : Signal := { s with storing := s.storing + 1 }

def Signal.set (s : Signal) : Signal :=
  { s with changed := true, storing := s.storing - 1, notifying := s.notifying + 1, issued := s.issued + 1 }

def Signal.notified (s : Signal) : Signal := { s with notifying := s.notifying - 1 }

def Signal.clear (s : Signal) : Signal := { s with changed := false }

@[simps] def World.update (w : World φ) (k : Flag) (f : Signal → Signal) : World φ :=
  { w with signals := Function.update w.signals k (f (w.signals k)) }

/-- The largest value an event descriptor holds. A write beyond it fails, as the descriptor does
not block. -/
def eventMax : ℕ := 0xfffffffffffffffe

def written (counter : ℕ) : ℕ := if counter < eventMax then counter + 1 else counter

/-- The native calls look for the desktop, which is gone after the loop. -/
def World.calls (w : World φ) (k : Flag) (stored : World φ) : World φ :=
  if w.pc = .left then w else stored.update k .store

def setCursor (c : Cursor) (w : World φ) : World φ :=
  w.calls .cursor { w with cur := c, lastSet := some c }

def notifyClipboardChanged (w : World φ) : World φ :=
  w.calls .clipboard { w with clipboardLog := w.clipboardLog ++ [ClipboardEntry.changed] }

/-- A frame is queued to the consumer of the virtual display, whose listener the desktop is. -/
def queueFrame (frame : φ) (w : World φ) : World φ :=
  if w.mVirtualDisplay then
    { w with frames := w.frames ++ [frame], lastQueued := some frame }.update .frame .store
  else w

def setFlag (k : Flag) (w : World φ) : World φ :=
  if 0 < (w.signals k).storing then w.update k .set else w

def notify (k : Flag) (w : World φ) : World φ :=
  if 0 < (w.signals k).notifying then { w with counter := written w.counter }.update k .notified else w

/-! ### The VNC server -/

/-- Another virtual display is made in the place of the one before, with a queue of its own. -/
def onBufferDimensionsChanged (w : World φ) : World φ :=
  { w with
    mVirtualDisplay := true, displays := w.displays + 1
    frames := [], framebuffer := none, lastQueued := none }

def World.resized (w : World φ) (resizes : Bool) : World φ :=
  if resizes then onBufferDimensionsChanged w else w

/-- `startDesktop`: a desktop that runs is not started again. `start` stores the server first. -/
def startDesktop (resizes started : Bool) (w : World φ) : World φ :=
  if w.desktopStarted then w
  else { ({ w with mServer := .started } : World φ).resized resizes with desktopStarted := started }

def stopDesktop (w : World φ) : World φ :=
  { w with mVirtualDisplay := false, desktopStarted := false, frames := [] }

def Client.moved (c : Client) (phase : Phase) : Client :=
  { c with phase := phase, readable := false, ready := false }

/-- `processSocketReadEvent`. An exception of the desktop closes the connection. -/
def serve (i : ℕ) (c : Client) (served : Served) (w : World φ) : World φ :=
  match served with
  | .nothing => { w with clients := w.clients.set i (c.moved c.phase) }
  | .shutdown => { w with clients := w.clients.set i (c.moved .shutdown) }
  | .authenticated resizes started =>
    if c.phase = .handshaking then
      let opened := startDesktop resizes started w
      let phase := if opened.desktopStarted then .authenticated else .shutdown
      { opened with clients := w.clients.set i (c.moved phase) }
    else { w with clients := w.clients.set i (c.moved c.phase) }
  | .layout resizes throws =>
    -- the client was authenticated by a desktop that had started
    if c.phase = .authenticated ∧ w.mServer = .started then
      let phase := if throws then .shutdown else .authenticated
      { w.resized resizes with clients := w.clients.set i (c.moved phase) }
    else { w with clients := w.clients.set i (c.moved c.phase) }

/-- The sockets that were shut down are removed, and with the last authenticated client the desktop
is stopped. -/
def collectSockets (w : World φ) : World φ :=
  let kept := w.clients.filter fun c => c.phase != .shutdown
  let removed := { w with clients := kept }
  if kept.length < w.clients.length ∧ w.desktopStarted ∧ ∀ c ∈ kept, c.phase ≠ .authenticated then
    stopDesktop removed
  else removed

/-! ### The loop -/

@[simps] def World.goto (w : World φ) (pc : Pc) : World φ := { w with pc := pc }

def Client.observe (c : Client) : Client := { c with ready := c.readable }

/-- `select` returns for a readable descriptor, a timeout or a signal. -/
def World.Wakes (w : World φ) (timed interrupted : Bool) : Prop :=
  interrupted ∨ timed ∨ 0 < w.counter ∨ 0 < w.arrivals ∨ ∃ c ∈ w.clients, c.readable

instance (w : World φ) (timed interrupted : Bool) : Decidable (w.Wakes timed interrupted) :=
  inferInstanceAs (Decidable (_ ∨ _ ∨ _ ∨ _ ∨ _))

def wake (timed interrupted : Bool) (w : World φ) : World φ :=
  if w.Wakes timed interrupted then
    if interrupted then w.goto .test
    else { w with clients := w.clients.map Client.observe, ready := decide (0 < w.arrivals) }.goto .accept
  else w

def acceptClient (connected : Bool) (w : World φ) : World φ :=
  let accepted :=
    if w.ready then
      { w with arrivals := w.arrivals - 1, clients := if connected then w.clients ++ [{}] else w.clients }
    else w
  -- with no client the descriptor is not read
  if accepted.clients.isEmpty then accepted.goto .test else accepted.goto .process

/-- The sockets that `select` found readable are served in the order of the list. -/
def serveClients (served : Served) (w : World φ) : World φ :=
  match w.clients.findIdx? Client.ready with
  | some i =>
    match w.clients[i]? with
    | some c => serve i c served w
    | none => w
  | none => w.goto .read

/-- A write or a timer that fails closes the connection. -/
def dropClient (i : ℕ) (w : World φ) : World φ :=
  { w with clients := w.clients.modify i fun c => { c with phase := .shutdown } }

def readCounter (w : World φ) : World φ :=
  if 0 < w.counter then { w with counter := 0 }.goto .cursor else w.goto .test

def processCursor (w : World φ) : World φ :=
  if (w.signals .cursor).changed then (w.update .cursor .clear).goto .deliver else w.goto .frames

def deliverCursor (w : World φ) : World φ :=
  if w.mServer = .started then { w with delivered := w.delivered ++ [w.cur] }.goto .frames
  else w.goto .crashed

def processFrames (w : World φ) : World φ :=
  if w.mVirtualDisplay && (w.signals .frame).changed then (w.update .frame .clear).goto .update
  else w.goto .clipboard

/-- `updateDisplayInfo` in `processFrames`. With an exception out of it the loop takes no further step. -/
def updateDisplayInfo (resizes : Bool) (w : World φ) : World φ :=
  if resizes = true ∧ w.mServer ≠ .started then w.goto .crashed else (w.resized resizes).goto .lock

def lockFrame (w : World φ) : World φ :=
  match w.frames with
  | [] => w.goto .clipboard
  | frame :: rest =>
    if w.mServer = .started then { w with frames := rest, framebuffer := some frame }.goto .clipboard
    else w.goto .crashed

def processClipboard (w : World φ) : World φ :=
  if (w.signals .clipboard).changed then (w.update .clipboard .clear).goto .announce else w.goto .test

def announceClipboard (w : World φ) : World φ :=
  match w.mServer with
  | .started => { w with clipboardLog := w.clipboardLog ++ [ClipboardEntry.announced] }.goto .test
  | .uninitialised true => w.goto .crashed
  | .uninitialised false => w.goto .test

/-- One step of the loop. A choice that is not of the place it is at does nothing. -/
def loopStep (w : World φ) (choice : Choice) : World φ :=
  match w.pc with
  | .test => if w.gCaughtSignal then w.goto .left else w.goto .collect
  | .collect =>
    match choice with
    | .collect timed => (collectSockets w).goto (.select timed)
    | _ => w
  | .select timed =>
    match choice with
    | .wake interrupted => wake timed interrupted w
    | _ => w
  | .accept =>
    match choice with
    | .accept connected => acceptClient connected w
    | _ => w
  | .process =>
    match choice with
    | .serve served => serveClients served w
    | .drop i => dropClient i w
    | _ => w
  | .read => readCounter w
  | .cursor => processCursor w
  | .deliver => deliverCursor w
  | .frames => processFrames w
  | .update =>
    match choice with
    | .update resizes => updateDisplayInfo resizes w
    | _ => w
  | .lock => lockFrame w
  | .clipboard => processClipboard w
  | .announce => announceClipboard w
  | .left => w
  | .crashed => w

def step (w : World φ) : Event φ → World φ
  | .setCursor c => setCursor c w
  | .notifyClipboardChanged => notifyClipboardChanged w
  | .queueFrame frame => queueFrame frame w
  | .flag k => setFlag k w
  | .notify k => notify k w
  | .quit => { w with gCaughtSignal := true }
  | .connect => { w with arrivals := w.arrivals + 1 }
  | .send i => { w with clients := w.clients.modify i fun c => { c with readable := true } }
  | .loop choice => loopStep w choice

/-- The desktop as `initializeVncFlinger` leaves it, before the first iteration. -/
def World.constructed (cur : Cursor) (nonNull : Bool) : World φ :=
  { cur := cur, mServer := .uninitialised nonNull }

/-- A client connects and is authenticated, which starts the desktop. -/
def firstClient : List (Event φ) :=
  [.connect, .loop .next, .loop (.collect false), .loop (.wake false), .loop (.accept true),
    .loop (.serve .nothing), .loop .next, .send 0, .loop .next, .loop (.collect false),
    .loop (.wake false), .loop (.accept false), .loop (.serve (.authenticated true true)),
    .loop (.serve .nothing), .loop .next]

/-- One iteration in which no socket is readable, up to the read of the descriptor. -/
def iteration : List (Event φ) :=
  [.loop .next, .loop (.collect false), .loop (.wake false), .loop (.accept false),
    .loop (.serve .nothing), .loop .next]

end VncFlinger.Loop
