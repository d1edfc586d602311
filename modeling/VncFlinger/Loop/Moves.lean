import VncFlinger.Loop.Server

/-!
# The moves of the callers and of the loop

What one step can do, said once. Outside the processing of events the loop changes the clients and
the desktop, and nothing the callers store.
-/

namespace VncFlinger.Loop

variable {φ : Type} {w w' : World φ} {e : Event φ}

/-- Between a read of the descriptor that found a notification and the end of `processClipboard`. -/
def Pc.processing : Pc → Bool
  | .cursor | .deliver | .frames | .update | .lock | .clipboard | .announce => true
  | _ => false

/-- The part of a `process` function right behind its flag. -/
def Flag.act : Flag → Pc
  | .cursor => .deliver
  | .frame => .update
  | .clipboard => .announce

/-- Behind the flag of a `process` function, where `mServer` is used. -/
def Pc.behindFlag : Pc → Bool
  | .deliver | .update | .lock | .announce => true
  | _ => false

/-- A call that has no desktop, or is not under way, does nothing. -/
inductive CallerMove (w : World φ) : Event φ → World φ → Prop
  | idle (e : Event φ) : CallerMove w e w
  | setCursor (c : Cursor) :
      CallerMove w (.setCursor c) ({ w with cur := c, lastSet := some c }.update .cursor .store)
  | notifyClipboardChanged :
      CallerMove w .notifyClipboardChanged
        ({ w with clipboardLog := w.clipboardLog ++ [ClipboardEntry.changed] }.update .clipboard .store)
  | queueFrame (frame : φ) (display : w.mVirtualDisplay = true) :
      CallerMove w (.queueFrame frame)
        ({ w with frames := w.frames ++ [frame], lastQueued := some frame }.update .frame .store)
  | flag (k : Flag) (storing : 0 < (w.signals k).storing) : CallerMove w (.flag k) (w.update k .set)
  | notify (k : Flag) :
      CallerMove w (.notify k) ({ w with counter := written w.counter }.update k .notified)
  | outside (e : Event φ) (clients : List Client) (arrivals : ℕ) (caught : Bool) :
      CallerMove w e { w with clients := clients, arrivals := arrivals, gCaughtSignal := caught }

/-- What becomes of the desktop between two rounds of processing. A resize of the buffer comes with a start,
or with a layout of a client that `start` has been called for. -/
inductive Between (w : World φ) : World φ → Prop
  | same (clients : List Client) (arrivals : ℕ) (ready : Bool) (pc : Pc) (outside : pc.processing = false) :
      Between w { w with clients := clients, arrivals := arrivals, ready := ready, pc := pc }
  | start (begun : Bool) (clients : List Client) (outside : w.pc.processing = false) :
      Between w { w with mServer := .started, desktopStarted := begun, clients := clients }
  | renew (begun : Bool) (clients : List Client) (outside : w.pc.processing = false) :
      Between w { onBufferDimensionsChanged w with
        mServer := .started, desktopStarted := begun, clients := clients }
  | stop (clients : List Client) (pc : Pc) (outside : pc.processing = false) :
      Between w { stopDesktop w with clients := clients, pc := pc }

inductive LoopMove (w : World φ) : World φ → Prop
  | between {w' : World φ} (outside : w.pc.processing = false) (moved : Between w w') : LoopMove w w'
  | read (place : w.pc = .read) (notified : 0 < w.counter) :
      LoopMove w ({ w with counter := 0 }.goto .cursor)
  | cursor (place : w.pc = .cursor) (changed : (w.signals .cursor).changed = true) :
      LoopMove w ((w.update .cursor .clear).goto .deliver)
  | noCursor (place : w.pc = .cursor) (same : (w.signals .cursor).changed = false) :
      LoopMove w (w.goto .frames)
  | deliver (place : w.pc = .deliver) (started : w.mServer = .started) :
      LoopMove w ({ w with delivered := w.delivered ++ [w.cur] }.goto .frames)
  | frames (place : w.pc = .frames) (display : w.mVirtualDisplay = true)
      (changed : (w.signals .frame).changed = true) : LoopMove w ((w.update .frame .clear).goto .update)
  | noFrames (place : w.pc = .frames)
      (same : w.mVirtualDisplay = true → (w.signals .frame).changed = false) :
      LoopMove w (w.goto .clipboard)
  | stay (place : w.pc = .update) : LoopMove w w
  | update (place : w.pc = .update) : LoopMove w (w.goto .lock)
  | renew (place : w.pc = .update) (started : w.mServer = .started) :
      LoopMove w ((onBufferDimensionsChanged w).goto .lock)
  | lock (place : w.pc = .lock) (started : w.mServer = .started) (frame : φ) (rest : List φ)
      (queued : w.frames = frame :: rest) :
      LoopMove w ({ w with frames := rest, framebuffer := some frame }.goto .clipboard)
  | lockEmpty (place : w.pc = .lock) (empty : w.frames = []) : LoopMove w (w.goto .clipboard)
  | clipboard (place : w.pc = .clipboard) (changed : (w.signals .clipboard).changed = true) :
      LoopMove w ((w.update .clipboard .clear).goto .announce)
  | noClipboard (place : w.pc = .clipboard) (same : (w.signals .clipboard).changed = false) :
      LoopMove w (w.goto .test)
  | announce (place : w.pc = .announce) (started : w.mServer = .started) :
      LoopMove w ({ w with clipboardLog := w.clipboardLog ++ [ClipboardEntry.announced] }.goto .test)
  | noAnnounce (place : w.pc = .announce) (null : w.mServer = .uninitialised false) :
      LoopMove w (w.goto .test)
  | crash (behind : w.pc.behindFlag = true) (unset : w.mServer ≠ .started) : LoopMove w (w.goto .crashed)

theorem Pc.behindFlag_processing {pc : Pc} (behind : pc.behindFlag = true) : pc.processing = true := by
  cases pc <;> first | rfl | cases behind

@[simp] theorem World.resized_pc (w : World φ) (resizes : Bool) : (w.resized resizes).pc = w.pc := by
  cases resizes <;> rfl

theorem written_pos (counter : ℕ) : 0 < written counter := by
  unfold written eventMax
  split <;> omega

theorem step_caller (caller : ∀ choice, e ≠ .loop choice) : CallerMove w e (step w e) := by
  cases e with
  | setCursor c =>
    simp only [step, setCursor, World.calls]
    split
    · exact .idle _
    · exact .setCursor c
  | notifyClipboardChanged =>
    simp only [step, Loop.notifyClipboardChanged, World.calls]
    split
    · exact .idle _
    · exact .notifyClipboardChanged
  | queueFrame frame =>
    simp only [step, queueFrame]
    split
    · exact .queueFrame frame ‹_›
    · exact .idle _
  | flag k =>
    simp only [step, setFlag]
    split
    · exact .flag k ‹_›
    · exact .idle _
  | notify k =>
    simp only [step, notify]
    split
    · exact .notify k
    · exact .idle _
  | quit => exact .outside _ w.clients w.arrivals true
  | connect => exact .outside _ w.clients (w.arrivals + 1) w.gCaughtSignal
  | send => exact .outside _ _ w.arrivals w.gCaughtSignal
  | loop choice => exact absurd rfl (caller choice)

theorem Between.refl (outside : w.pc.processing = false) : Between w w :=
  .same w.clients w.arrivals w.ready w.pc outside

/-- The clients are other ones and nothing else changes. -/
theorem Between.serves (clients : List Client) (outside : w.pc.processing = false) :
    Between w { w with clients := clients } :=
  .same clients w.arrivals w.ready w.pc outside

theorem Between.moves (pc : Pc) (outside : pc.processing = false) : Between w (w.goto pc) :=
  .same w.clients w.arrivals w.ready pc outside

theorem Between.outside (moved : Between w w') : w'.pc.processing = false := by
  cases moved with
  | same _ _ _ _ outside | start _ _ outside | renew _ _ outside | stop _ _ outside => exact outside

theorem collectSockets_between (timed : Bool) : Between w ((collectSockets w).goto (.select timed)) := by
  unfold collectSockets
  simp only
  split
  · exact .stop _ (.select timed) rfl
  · exact .same _ w.arrivals w.ready (.select timed) rfl

theorem wake_between (timed interrupted : Bool) (outside : w.pc.processing = false) :
    Between w (wake timed interrupted w) := by
  unfold wake
  split
  · split
    · exact .moves .test rfl
    · exact .same _ w.arrivals _ .accept rfl
  · exact .refl outside

theorem acceptClient_between (connected : Bool) : Between w (acceptClient connected w) := by
  unfold acceptClient
  simp only
  by_cases arrived : w.ready = true
  · simp only [if_pos arrived]
    generalize (if connected = true then w.clients ++ [({} : Client)] else w.clients) = clients
    split
    · exact .same clients (w.arrivals - 1) w.ready .test rfl
    · exact .same clients (w.arrivals - 1) w.ready .process rfl
  · simp only [if_neg arrived]
    split
    · exact .moves .test rfl
    · exact .moves .process rfl

theorem serve_between {i : ℕ} {c : Client} {served : Served} (outside : w.pc.processing = false) :
    Between w (serve i c served w) := by
  cases served with
  | nothing => exact .serves _ outside
  | shutdown => exact .serves _ outside
  | authenticated resizes started =>
    simp only [serve]
    split
    · cases running : w.desktopStarted with
      | true =>
        have kept : startDesktop resizes started w = w := if_pos running
        rw [kept]
        exact .serves _ outside
      | false =>
        rw [startDesktop, running]
        cases resizes with
        | true => exact .renew started _ outside
        | false => exact .start started _ outside
    · exact .serves _ outside
  | layout resizes throws =>
    simp only [serve]
    split
    · next reached =>
      have served : ({ w with mServer := .started } : World φ) = w := by rw [← reached.2]
      cases resizes with
      | true =>
        rw [← served]
        exact .renew w.desktopStarted _ outside
      | false => exact .serves _ outside
    · exact .serves _ outside

theorem serveClients_between {served : Served} (outside : w.pc.processing = false) :
    Between w (serveClients served w) := by
  unfold serveClients
  split
  · split
    · exact serve_between outside
    · exact .refl outside
  · exact .moves .read rfl

theorem loopStep_move (w : World φ) (choice : Choice) : LoopMove w (loopStep w choice) := by
  unfold loopStep
  cases place : w.pc with
  | test =>
    have outside : w.pc.processing = false := by rw [place]; rfl
    simp only
    split
    · exact .between outside (.moves .left rfl)
    · exact .between outside (.moves .collect rfl)
  | collect =>
    have outside : w.pc.processing = false := by rw [place]; rfl
    cases choice with
    | collect timed => exact .between outside (collectSockets_between timed)
    | _ => exact .between outside (.refl outside)
  | select timed =>
    have outside : w.pc.processing = false := by rw [place]; rfl
    cases choice with
    | wake interrupted => exact .between outside (wake_between timed interrupted outside)
    | _ => exact .between outside (.refl outside)
  | accept =>
    have outside : w.pc.processing = false := by rw [place]; rfl
    cases choice with
    | accept connected => exact .between outside (acceptClient_between connected)
    | _ => exact .between outside (.refl outside)
  | process =>
    have outside : w.pc.processing = false := by rw [place]; rfl
    cases choice with
    | serve served => exact .between outside (serveClients_between outside)
    | drop i => exact .between outside (.serves _ outside)
    | _ => exact .between outside (.refl outside)
  | read =>
    have outside : w.pc.processing = false := by rw [place]; rfl
    simp only [readCounter]
    split
    · exact .read place ‹_›
    · exact .between outside (.moves .test rfl)
  | cursor =>
    simp only [processCursor]
    split
    · exact .cursor place ‹_›
    · exact .noCursor place (Bool.eq_false_iff.mpr ‹_›)
  | deliver =>
    simp only [deliverCursor]
    split
    · exact .deliver place ‹_›
    · exact .crash (by rw [place]; rfl) ‹_›
  | frames =>
    simp only [processFrames, Bool.and_eq_true]
    split
    · rename_i both
      exact .frames place both.1 both.2
    · rename_i neither
      exact .noFrames place fun display =>
        Bool.eq_false_iff.mpr fun changed => neither ⟨display, changed⟩
  | update =>
    cases choice with
    | update resizes =>
      simp only [updateDisplayInfo]
      split
      · next unset => exact .crash (by rw [place]; rfl) unset.2
      · next set =>
        cases resizes with
        | true => exact .renew place (by simpa using set)
        | false => exact .update place
    | _ => exact .stay place
  | lock =>
    simp only [lockFrame]
    split
    · exact .lockEmpty place ‹_›
    · split
      · exact .lock place ‹_› _ _ ‹_›
      · exact .crash (by rw [place]; rfl) ‹_›
  | clipboard =>
    simp only [processClipboard]
    split
    · exact .clipboard place ‹_›
    · exact .noClipboard place (Bool.eq_false_iff.mpr ‹_›)
  | announce =>
    simp only [announceClipboard]
    split
    · exact .announce place ‹_›
    · rename_i garbage
      exact .crash (by rw [place]; rfl) (by simp [garbage])
    · exact .noAnnounce place ‹_›
  | left => exact .between (by rw [place]; rfl) (.refl (by rw [place]; rfl))
  | crashed => exact .between (by rw [place]; rfl) (.refl (by rw [place]; rfl))

/-! ### The control flow -/

/-- The places the loop may be at after one step. -/
def Pc.Follows : Pc → Pc → Prop
  | .test, after => after = .left ∨ after = .collect
  | .collect, after => after = .collect ∨ ∃ timed, after = .select timed
  | .select timed, after => after = .select timed ∨ after = .test ∨ after = .accept
  | .accept, after => after = .accept ∨ after = .test ∨ after = .process
  | .process, after => after = .process ∨ after = .read
  | .read, after => after = .cursor ∨ after = .test
  | .cursor, after => after = .deliver ∨ after = .frames
  | .deliver, after => after = .frames ∨ after = .crashed
  | .frames, after => after = .update ∨ after = .clipboard
  | .update, after => after = .update ∨ after = .lock ∨ after = .crashed
  | .lock, after => after = .clipboard ∨ after = .crashed
  | .clipboard, after => after = .announce ∨ after = .test
  | .announce, after => after = .test ∨ after = .crashed
  | .left, after => after = .left
  | .crashed, after => after = .crashed

theorem startDesktop_pc (resizes started : Bool) : (startDesktop resizes started w).pc = w.pc := by
  unfold startDesktop
  split
  · rfl
  · exact World.resized_pc _ resizes

theorem serve_pc {i : ℕ} {c : Client} {served : Served} : (serve i c served w).pc = w.pc := by
  cases served with
  | authenticated resizes started =>
    simp only [serve]
    split
    · exact startDesktop_pc resizes started
    · rfl
  | layout resizes throws =>
    simp only [serve]
    split
    · exact World.resized_pc w resizes
    · rfl
  | _ => rfl

theorem serveClients_pc {served : Served} :
    (serveClients served w).pc = w.pc ∨ (serveClients served w).pc = .read := by
  unfold serveClients
  split
  · split
    · exact Or.inl serve_pc
    · exact Or.inl rfl
  · exact Or.inr rfl

theorem acceptClient_pc (connected : Bool) :
    (acceptClient connected w).pc = .test ∨ (acceptClient connected w).pc = .process := by
  unfold acceptClient
  simp only
  generalize (if w.ready = true then _ else w) = accepted
  split
  · exact Or.inl rfl
  · exact Or.inr rfl

theorem wake_pc (timed interrupted : Bool) :
    wake timed interrupted w = w ∨ (wake timed interrupted w).pc = .test ∨
      (wake timed interrupted w).pc = .accept := by
  unfold wake
  split
  · split
    · exact Or.inr (Or.inl rfl)
    · exact Or.inr (Or.inr rfl)
  · exact Or.inl rfl

theorem loopStep_follows (w : World φ) (choice : Choice) : w.pc.Follows (loopStep w choice).pc := by
  cases place : w.pc with
  | test =>
    simp only [loopStep, place]
    split
    · exact Or.inl rfl
    · exact Or.inr rfl
  | collect =>
    simp only [loopStep, place]
    cases choice with
    | collect timed => exact Or.inr ⟨timed, rfl⟩
    | _ => exact Or.inl place
  | select timed =>
    simp only [loopStep, place]
    cases choice with
    | wake interrupted =>
      rcases wake_pc (w := w) timed interrupted with same | moved
      · exact Or.inl (by simp only [same, place])
      · exact Or.inr moved
    | _ => exact Or.inl place
  | accept =>
    simp only [loopStep, place]
    cases choice with
    | accept connected => exact Or.inr (acceptClient_pc connected)
    | _ => exact Or.inl place
  | process =>
    simp only [loopStep, place]
    cases choice with
    | serve served =>
      rcases @serveClients_pc _ w served with same | moved
      · exact Or.inl (same.trans place)
      · exact Or.inr moved
    | _ => exact Or.inl place
  | read =>
    simp only [loopStep, place, readCounter]
    split
    · exact Or.inl rfl
    · exact Or.inr rfl
  | cursor =>
    simp only [loopStep, place, processCursor]
    split
    · exact Or.inl rfl
    · exact Or.inr rfl
  | deliver =>
    simp only [loopStep, place, deliverCursor]
    split
    · exact Or.inl rfl
    · exact Or.inr rfl
  | frames =>
    simp only [loopStep, place, processFrames]
    split
    · exact Or.inl rfl
    · exact Or.inr rfl
  | update =>
    simp only [loopStep, place]
    cases choice with
    | update resizes =>
      simp only [updateDisplayInfo]
      split
      · exact Or.inr (Or.inr rfl)
      · exact Or.inr (Or.inl rfl)
    | _ => exact Or.inl place
  | lock =>
    simp only [loopStep, place, lockFrame]
    split
    · exact Or.inl rfl
    · split
      · exact Or.inl rfl
      · exact Or.inr rfl
  | clipboard =>
    simp only [loopStep, place, processClipboard]
    split
    · exact Or.inl rfl
    · exact Or.inr rfl
  | announce =>
    simp only [loopStep, place, announceClipboard]
    split
    · exact Or.inl rfl
    · exact Or.inr rfl
    · exact Or.inl rfl
  | left =>
    simp only [loopStep, place]
    rfl
  | crashed =>
    simp only [loopStep, place]
    rfl

theorem step_cases (w : World φ) (e : Event φ) :
    (∀ choice, e ≠ .loop choice) ∧ CallerMove w e (step w e) ∨
      ∃ choice, e = .loop choice ∧ LoopMove w (step w e) := by
  by_cases caller : ∀ choice, e ≠ .loop choice
  · exact Or.inl ⟨caller, step_caller caller⟩
  · obtain ⟨choice, rfl⟩ : ∃ choice, e = .loop choice := by simpa using caller
    exact Or.inr ⟨choice, rfl, loopStep_move w choice⟩

end VncFlinger.Loop
