import Mathlib.Data.List.TakeWhile
import VncFlinger.Library.ModifiedUtf8
import VncFlinger.Service.Clipboard
import VncFlinger.Service.Resources

/-!
# The shared clipboard

The clipboard of Android and the VNC server's calls about it, in any order, with the commands that
turn the sharing on and off. Texts cross the border between Java and the desktop as modified UTF-8.
What the virtual machine makes of other bytes is a parameter.
-/

namespace VncFlinger.Service

/-! ### Texts at the border -/

def getStringUTFChars (jtext : JString) : List UInt8 := ModifiedUtf8.utf8.write jtext

def newStringUTF (mangled : List UInt8 → JString) (text : List UInt8) : JString :=
  match ModifiedUtf8.utf8.read text with
  | some jtext => jtext
  | none => mangled text

/-- A C string ends before its first zero. -/
def strdup (text : List UInt8) : List UInt8 := text.takeWhile (· != 0)

theorem strdup_chars (jtext : JString) : strdup (getStringUTFChars jtext) = getStringUTFChars jtext := by
  apply List.takeWhile_eq_self_iff.mpr
  intro b written
  exact bne_iff_ne.mpr (ModifiedUtf8.write_ne_zero written)

theorem chars_empty_iff {jtext : JString} : getStringUTFChars jtext = [] ↔ jtext = [] :=
  ⟨fun none => ModifiedUtf8.write_injective none, fun empty => by rw [empty]; rfl⟩

theorem chars_of_newStringUTF {mangled : List UInt8 → JString} {data : List UInt8} {text : JString}
    (valid : ModifiedUtf8.utf8.read data = some text) :
    getStringUTFChars (newStringUTF mangled data) = data := by
  rw [newStringUTF, valid, getStringUTFChars]
  exact (ModifiedUtf8.utf8.read_iff.mp valid).symm

def newPlainText (text : JString) : Clip := ⟨[MIMETYPE_TEXT_PLAIN], [some text], List.cons_ne_nil _ _⟩

namespace Sharing

inductive ServerCall where
  | announceClipboard
  | requestClipboard
  | sendClipboardData (data : List UInt8)
  deriving DecidableEq, Repr

/-- `desktop` says whether there is one. Its server has been set. -/
structure World where
  service : Fields := {}
  primaryClip : Option Clip := none
  desktop : Bool := false
  clipboardChanged : Bool := false
  calls : List ServerCall := []

/-- Android tells of a new clip some time after it was set. -/
inductive Event where
  | desktopSetup
  | startServiceReturns
  | onStartCommand (intent : Intent)
  | setPrimaryClip (clip : Option Clip)
  | onPrimaryClipChanged
  | handleClipboardRequest
  | handleClipboardAnnounce (available : Bool)
  | handleClipboardData (data : List UInt8)
  | processClipboard

def Event.setsClip : Event → Bool
  | .setPrimaryClip _ | .handleClipboardData _ => true
  | _ => false

def World.call (w : World) (c : ServerCall) : World := { w with calls := w.calls ++ [c] }

def notifyServerClipboardChanged (w : World) : World :=
  if w.desktop then { w with clipboardChanged := true } else w

def processClipboard (w : World) : World :=
  if w.clipboardChanged then { w with clipboardChanged := false }.call .announceClipboard else w

def handleClipboardAnnounce (available : Bool) (w : World) : World :=
  if available then w.call .requestClipboard else w

def setServerClipboard (text : JString) (w : World) : Option World :=
  if !w.service.mSupportClipboard then some w
  else if w.service.mClipboard then some { w with primaryClip := some (newPlainText text) }
  else none

section

variable (hasMimeType : List String → String → Bool) (mangled : List UInt8 → JString) (android : Android)

def mClipListener (w : World) : World :=
  if w.service.mSupportClipboard && w.primaryClip.any fun clip => hasMimeType clip.types MIMETYPE_TEXT_PLAIN
  then notifyServerClipboardChanged w
  else w

def handleClipboardRequest (w : World) : Option World :=
  (runJniCallbackGetClipboard hasMimeType w.service w.primaryClip).map fun jtext =>
    let data := strdup (getStringUTFChars jtext)
    if data.length != 0 then w.call (.sendClipboardData data) else w

def handleClipboardData (data : List UInt8) (w : World) : Option World :=
  setServerClipboard (newStringUTF mangled data) w

/-- The server's calls come to a desktop, and Android's to a listener. -/
def World.handle (w : World) : Event → Option World
  | .desktopSetup => some { w with desktop := true, clipboardChanged := false }
  | .startServiceReturns => some { w with desktop := false }
  | .onStartCommand intent =>
    (commandStep android (some w.service) intent).map fun s => { w with service := s }
  | .setPrimaryClip clip => some { w with primaryClip := clip }
  | .onPrimaryClipChanged =>
    some (if 0 < (held id w.service).clipListeners then mClipListener hasMimeType w else w)
  | .handleClipboardRequest => if w.desktop then handleClipboardRequest hasMimeType w else some w
  | .handleClipboardAnnounce available => some (if w.desktop then handleClipboardAnnounce available w else w)
  | .handleClipboardData data => if w.desktop then handleClipboardData mangled data w else some w
  | .processClipboard => some (if w.desktop then processClipboard w else w)

/-- An exception ends the process. -/
def step : Option World → Event → Option World
  | none, _ => none
  | some w, e => w.handle hasMimeType mangled android e

end

variable {hasMimeType : List String → String → Bool} {mangled : List UInt8 → JString} {android : Android}
  {intent : Intent} {s s' : Fields} {w w' : World}

/-! ### Commands and the sharing -/

theorem shown_fetched (s : Fields) (android : Android) : (s.shown android).mClipboard = s.mClipboard := by
  unfold Fields.shown
  split
  · rfl
  · split <;> rfl

/-- The command decides the sharing, and a clipboard once fetched stays. -/
theorem command_clipboard (ok : onStartCommand android intent s = .ok () s') :
    s'.mSupportClipboard = (intent.merge s.toSettings).mSupportClipboard ∧
      (s.mClipboard = true → s'.mClipboard = true) := by
  obtain ⟨again, middle, received, rest⟩ := Outcomes.bind_returns ok
  have clipped {support : Bool} : s.mClipboard = true → (s.clipped support).mClipboard = true := by
    intro fetched
    show (s.mClipboard || s.mSupportClipboard != support) = true
    rw [fetched, Bool.true_or]
  cases again with
  | false =>
    cases rest
    obtain ⟨width, height, dpi, effects, rfl, _⟩ := (received_inPlace received).2
    exact ⟨rfl, clipped⟩
  | true =>
    obtain ⟨_, rfl⟩ := acquire_returns rest
    have settings := acquired_settings middle android
    have acquired : middle.mClipboard = true → (middle.acquired android).mClipboard = true := by
      intro fetched
      show ((middle.shown android).mClipboard || (middle.shown android).mSupportClipboard) = true
      rw [shown_fetched, fetched, Bool.true_or]
    rcases received_acquiring received with ⟨_, rfl⟩ | ⟨_, _, rfl⟩
    · exact ⟨congrArg Settings.mSupportClipboard settings, acquired⟩
    · refine ⟨?_, fun fetched => acquired (clipped fetched)⟩
      exact (congrArg Settings.mSupportClipboard settings).trans rfl

/-! ### What the other side does not see -/

/-- Two worlds that differ at most by the clip, and not by it while it is shared. -/
structure Alike (w w' : World) : Prop where
  others : w' = { w with primaryClip := w'.primaryClip }
  shared : w.service.mSupportClipboard = true → w'.primaryClip = w.primaryClip

/-- The events of two runs: other clips may be set and other texts pasted while the clipboard is not
shared, and a command that shares it finds the same clip in both. -/
inductive Unseen (w w' : World) : Event → Event → Prop
  | clip (off : w.service.mSupportClipboard = false) (clip clip' : Option Clip) :
      Unseen w w' (.setPrimaryClip clip) (.setPrimaryClip clip')
  | data (off : w.service.mSupportClipboard = false) (data data' : List UInt8) :
      Unseen w w' (.handleClipboardData data) (.handleClipboardData data')
  | command (intent : Intent) (found : (intent.merge w.service.toSettings).mSupportClipboard = true →
      w'.primaryClip = w.primaryClip) : Unseen w w' (.onStartCommand intent) (.onStartCommand intent)
  | same {e : Event} (other : ∀ intent, e ≠ .onStartCommand intent) : Unseen w w' e e

theorem Alike.refl (w : World) : Alike w w := ⟨rfl, fun _ => rfl⟩

theorem Alike.eq_of_shared (alike : Alike w w') (on : w.service.mSupportClipboard = true) : w' = w := by
  rw [alike.others, alike.shared on]

theorem rel_refl (v : Option World) : Option.Rel Alike v v := by
  cases v with
  | none => exact .none
  | some w => exact .some (.refl w)

def World.withClip (clip : Option Clip) (w : World) : World := { w with primaryClip := clip }

theorem rel_withClip {v : Option World} (off : ∀ w ∈ v, w.service.mSupportClipboard = false)
    (clip : Option Clip) : Option.Rel Alike v (v.map (World.withClip clip)) := by
  cases v with
  | none => exact .none
  | some w =>
    refine .some ⟨rfl, fun on => ?_⟩
    rw [off w rfl] at on
    cases on

/-! While the clipboard is not shared, nothing looks at the clip. -/

theorem listener_unshared (off : w.service.mSupportClipboard = false) : mClipListener hasMimeType w = w := by
  rw [mClipListener, off]
  rfl

theorem request_unshared (off : w.service.mSupportClipboard = false) :
    handleClipboardRequest hasMimeType w = some w := by
  unfold handleClipboardRequest runJniCallbackGetClipboard getServerClipboard
  rw [off]
  rfl

theorem paste_unshared (off : w.service.mSupportClipboard = false) (data : List UInt8) :
    handleClipboardData mangled data w = some w := by
  rw [handleClipboardData, setServerClipboard, off]
  rfl

theorem handle_unshared {e : Event} (off : w.service.mSupportClipboard = false)
    (command : ∀ intent, e ≠ .onStartCommand intent) (set : ∀ clip, e ≠ .setPrimaryClip clip)
    (clip : Option Clip) : (w.withClip clip).handle hasMimeType mangled android e =
      (w.handle hasMimeType mangled android e).map (World.withClip clip) := by
  have off' : (w.withClip clip).service.mSupportClipboard = false := off
  cases e with
  | onStartCommand intent => exact absurd rfl (command intent)
  | setPrimaryClip clip' => exact absurd rfl (set clip')
  | desktopSetup | startServiceReturns => rfl
  | onPrimaryClipChanged =>
    rw [World.handle, World.handle, listener_unshared off, listener_unshared off', ite_self, ite_self]
    rfl
  | handleClipboardRequest =>
    rw [World.handle, World.handle, request_unshared off, request_unshared off', ite_self, ite_self]
    rfl
  | handleClipboardData data =>
    rw [World.handle, World.handle, paste_unshared off, paste_unshared off', ite_self, ite_self]
    rfl
  | handleClipboardAnnounce available =>
    obtain ⟨_, _, desktop, _, _⟩ := w
    cases desktop <;> cases available <;> rfl
  | processClipboard =>
    obtain ⟨_, _, desktop, changed, _⟩ := w
    cases desktop <;> cases changed <;> rfl

theorem listener_keeps (w : World) : (mClipListener hasMimeType w).service = w.service ∧
    (mClipListener hasMimeType w).primaryClip = w.primaryClip := by
  unfold mClipListener notifyServerClipboardChanged
  split_ifs <;> exact ⟨rfl, rfl⟩

theorem request_keeps (answered : handleClipboardRequest hasMimeType w = some w') :
    w'.service = w.service ∧ w'.primaryClip = w.primaryClip := by
  obtain ⟨jtext, _, rfl⟩ := Option.map_eq_some_iff.mp answered
  dsimp only
  split_ifs <;> exact ⟨rfl, rfl⟩

theorem paste_service {data : List UInt8} (pasted : handleClipboardData mangled data w = some w') :
    w'.service = w.service := by
  unfold handleClipboardData setServerClipboard at pasted
  split_ifs at pasted
  all_goals
    cases pasted
    rfl

/-- Only a command changes the service, and the clip is set by Android or by a client. -/
theorem handle_keeps {e : Event} (command : ∀ intent, e ≠ .onStartCommand intent)
    (handled : w.handle hasMimeType mangled android e = some w') :
    w'.service = w.service ∧ (e.setsClip = false → w'.primaryClip = w.primaryClip) := by
  cases e with
  | onStartCommand intent => exact absurd rfl (command intent)
  | desktopSetup | startServiceReturns =>
    cases handled
    exact ⟨rfl, fun _ => rfl⟩
  | setPrimaryClip clip =>
    cases handled
    exact ⟨rfl, Bool.noConfusion⟩
  | onPrimaryClipChanged =>
    cases handled
    split
    · exact (listener_keeps w).imp_right fun same _ => same
    · exact ⟨rfl, fun _ => rfl⟩
  | handleClipboardRequest =>
    rw [World.handle] at handled
    split at handled
    · exact (request_keeps handled).imp_right fun same _ => same
    · cases handled
      exact ⟨rfl, fun _ => rfl⟩
  | handleClipboardData data =>
    rw [World.handle] at handled
    split at handled
    · exact ⟨paste_service handled, Bool.noConfusion⟩
    · cases handled
      exact ⟨rfl, fun _ => rfl⟩
  | handleClipboardAnnounce available =>
    cases handled
    unfold handleClipboardAnnounce
    split_ifs <;> exact ⟨rfl, fun _ => rfl⟩
  | processClipboard =>
    cases handled
    unfold processClipboard
    split_ifs <;> exact ⟨rfl, fun _ => rfl⟩

theorem commandStep_some {s' : Fields} (ok : commandStep android (some s) intent = some s') :
    onStartCommand android intent s = .ok () s' := by
  cases result : onStartCommand android intent s with
  | ok u s'' =>
    rw [commandStep_ok result] at ok
    cases ok
    rfl
  | error e s'' =>
    rw [commandStep_error result] at ok
    cases ok

theorem Alike.handle {e e' : Event} (alike : Alike w w') (unseen : Unseen w w' e e') :
    Option.Rel Alike (w.handle hasMimeType mangled android e) (w'.handle hasMimeType mangled android e') := by
  cases on : w.service.mSupportClipboard with
  | true =>
    rw [alike.eq_of_shared on]
    cases unseen with
    | clip off | data off =>
      rw [off] at on
      cases on
    | command | same => exact rel_refl _
  | false =>
    have replaced : w' = w.withClip w'.primaryClip := alike.others
    generalize w'.primaryClip = clip at replaced unseen
    subst replaced
    cases unseen with
    | clip off first second =>
      apply rel_withClip (v := some { w with primaryClip := first })
      rintro _ ⟨⟩
      exact off
    | data off first second =>
      have on' : (w.withClip clip).service.mSupportClipboard = false := on
      rw [World.handle, World.handle, paste_unshared on, paste_unshared on', ite_self, ite_self]
      apply rel_withClip (v := some w)
      rintro _ ⟨⟩
      exact on
    | command intent found =>
      rw [World.handle, World.handle]
      show Option.Rel Alike ((commandStep android (some w.service) intent).map _)
        ((commandStep android (some w.service) intent).map _)
      cases ran : commandStep android (some w.service) intent with
      | none => exact .none
      | some s =>
        have sharing := (command_clipboard (commandStep_some ran)).1
        refine .some ⟨rfl, fun on => found ?_⟩
        exact sharing.symm.trans on
    | same command =>
      by_cases set : ∃ clip', e = .setPrimaryClip clip'
      · obtain ⟨clip', rfl⟩ := set
        exact rel_refl _
      · rw [handle_unshared on command (fun clip' same => set ⟨clip', same⟩)]
        apply rel_withClip
        intro v handled
        rw [(handle_keeps command handled).1, on]

/-! ### Two runs -/

section

variable (hasMimeType : List String → String → Bool) (mangled : List UInt8 → JString) (android : Android)

def bothStep (v : Option World × Option World) (e : Event × Event) : Option World × Option World :=
  (step hasMimeType mangled android v.1 e.1, step hasMimeType mangled android v.2 e.2)

def BothUnseen (v : Option World × Option World) (e : Event × Event) : Prop :=
  ∀ w ∈ v.1, ∀ w' ∈ v.2, Unseen w w' e.1 e.2

theorem rel_step {v : Option World × Option World} {e : Event × Event} (rel : Option.Rel Alike v.1 v.2)
    (unseen : BothUnseen v e) : Option.Rel Alike (bothStep hasMimeType mangled android v e).1
      (bothStep hasMimeType mangled android v e).2 := by
  obtain ⟨v, v'⟩ := v
  cases rel with
  | none => exact .none
  | some alike => exact alike.handle (unseen _ rfl _ rfl)

/-- What is set or pasted while the clipboard is not shared, and gone before it is, makes no difference
to what the clients are told. -/
theorem unshared_unseen {v : Option World × Option World} {run : List (Event × Event)}
    (rel : Option.Rel Alike v.1 v.2)
    (unseen : Runs.Along (bothStep hasMimeType mangled android) BothUnseen v run) :
    ((run.foldl (bothStep hasMimeType mangled android) v).1.map World.calls) =
      (run.foldl (bothStep hasMimeType mangled android) v).2.map World.calls := by
  have ends := Runs.foldl_invariant_along (I := fun v => Option.Rel Alike v.1 v.2) rel unseen
    fun v e here before => rel_step hasMimeType mangled android before here
  generalize run.foldl (bothStep hasMimeType mangled android) v = final at ends
  obtain ⟨w, w'⟩ := final
  cases ends with
  | none => rfl
  | some alike =>
    simp only [Option.map_some]
    rw [alike.others]

end

def shown : JString := [0x73, 0x65, 0x65]

/-- A clip that is set while the clipboard is not shared, or is not set, and one that is shared. -/
def secretRun : List (Event × Event) :=
  [(.onStartCommand { clipboard := some false }, .onStartCommand { clipboard := some false }),
    (.setPrimaryClip (some (newPlainText hello)), .setPrimaryClip none),
    (.setPrimaryClip (some (newPlainText shown)), .setPrimaryClip (some (newPlainText shown))),
    (.onStartCommand { clipboard := some true }, .onStartCommand { clipboard := some true }),
    (.desktopSetup, .desktopSetup), (.handleClipboardRequest, .handleClipboardRequest)]

theorem unshared_unseen_secret :
    ((secretRun.foldl (bothStep List.contains (fun _ => []) .calm) (some {}, some {})).1.map World.calls) =
      (secretRun.foldl (bothStep List.contains (fun _ => []) .calm) (some {}, some {})).2.map World.calls := by
  apply unshared_unseen List.contains (fun _ => []) .calm (.some (.refl {}))
  refine ⟨?_, ?_, ?_, ?_, ?_, ?_, trivial⟩
  · rintro _ ⟨⟩ _ ⟨⟩
    exact .command _ fun _ => rfl
  · intro w held w' _
    have off : (some w).map (fun w => w.service.mSupportClipboard) = some false := by
      rw [← held]
      decide
    exact .clip (Option.some.inj off) _ _
  · intro w _ w' _
    exact .same fun intent => by rintro ⟨⟩
  · intro w held w' held'
    have clip : (some w).map World.primaryClip = some (some (newPlainText shown)) := by
      rw [← held]
      rfl
    have clip' : (some w').map World.primaryClip = some (some (newPlainText shown)) := by
      rw [← held']
      rfl
    exact .command _ fun _ => (Option.some.inj clip').trans (Option.some.inj clip).symm
  · intro w _ w' _
    exact .same fun intent => by rintro ⟨⟩
  · intro w _ w' _
    exact .same fun intent => by rintro ⟨⟩

/-! ### What the client gets -/

section

variable (documented : ∀ types, hasMimeType types MIMETYPE_TEXT_PLAIN = true ↔ MIMETYPE_TEXT_PLAIN ∈ types)

include documented

theorem request_sends (on : w.service.mSupportClipboard = true) (fetched : w.service.mClipboard = true)
    {clip : Clip} (set : w.primaryClip = some clip) (plain : MIMETYPE_TEXT_PLAIN ∈ clip.types) {text : JString}
    (item : clip.items[clip.types.idxOf MIMETYPE_TEXT_PLAIN]? = some (some text)) :
    handleClipboardRequest hasMimeType w =
      some (if text = [] then w else w.call (.sendClipboardData (getStringUTFChars text))) := by
  have returned : getServerClipboard hasMimeType w.service (some clip) = .ok text := by
    rw [getServerClipboard_plain on fetched plain ((documented _).mpr plain), item_text_iff]
    exact item
  have got : runJniCallbackGetClipboard hasMimeType w.service w.primaryClip = some text := by
    rw [set, runJniCallbackGetClipboard, returned]
  rw [handleClipboardRequest, got]
  show some (if (strdup (getStringUTFChars text)).length != 0 then _ else _) = _
  rw [strdup_chars]
  by_cases empty : text = []
  · rw [if_pos empty, chars_empty_iff.mpr empty]
    rfl
  · have written : (getStringUTFChars text).length ≠ 0 := fun none =>
      empty (chars_empty_iff.mp (List.length_eq_zero_iff.mp none))
    rw [if_neg empty, if_pos (bne_iff_ne.mpr written)]

/-- A text goes out as the UTF-8 of some characters if and only if it consists of these, without a half
of one, and the modified form writes each of them as UTF-8 does. -/
theorem sends_utf8_iff (desktop : w.desktop = true) (on : w.service.mSupportClipboard = true)
    (fetched : w.service.mClipboard = true) {clip : Clip} (set : w.primaryClip = some clip)
    (plain : MIMETYPE_TEXT_PLAIN ∈ clip.types) {text : JString}
    (item : clip.items[clip.types.idxOf MIMETYPE_TEXT_PLAIN]? = some (some text)) (filled : text ≠ [])
    (chars : List Char) :
    w.handle hasMimeType mangled android .handleClipboardRequest =
        some (w.call (.sendClipboardData (chars.flatMap String.utf8EncodeChar))) ↔
      ModifiedUtf8.utf16.read text = some chars ∧ ∀ c ∈ chars, ModifiedUtf8.Plain c := by
  rw [World.handle, if_pos desktop, request_sends documented on fetched set plain item, if_neg filled,
    ← ModifiedUtf8.write_eq_utf8_iff]
  constructor
  · intro sent
    have calls := congrArg World.calls (Option.some.inj sent)
    have last := List.singleton_inj.mp (List.append_cancel_left calls)
    injection last
  · intro same
    rw [getStringUTFChars, same]

end

/-- Half of a character. -/
def unpaired : JString := [0xd83d]

def unpairedCopied : World :=
  { service := { mClipboard := true }, primaryClip := some (newPlainText unpaired), desktop := true }

theorem sends_utf8_iff_unpaired : ¬ ∃ chars : List Char,
    unpairedCopied.handle List.contains (fun _ => []) .calm .handleClipboardRequest =
      some (unpairedCopied.call (.sendClipboardData (chars.flatMap String.utf8EncodeChar))) := by
  rintro ⟨chars, sent⟩
  have read := ((sends_utf8_iff (fun _ => List.contains_iff_mem) rfl rfl rfl rfl (List.mem_singleton.mpr rfl)
    rfl (by decide) chars).mp sent).1
  rw [ModifiedUtf8.utf16.read_of_refused (by decide) (by rfl)] at read
  cases read

/-! ### What a client pasted -/

section

variable (hasMimeType : List String → String → Bool) (mangled : List UInt8 → JString) (android : Android)

/-- The text is on Android's clipboard. -/
structure Pasted (data : List UInt8) (w : World) : Prop where
  clip : w.primaryClip = some (newPlainText (newStringUTF mangled data))
  fetched : w.service.mClipboard = true

/-- A request is answered with the text while the clipboard is shared, and not answered otherwise. -/
def Answers (data : List UInt8) (v : Option World) (e : Event) : Prop :=
  ∀ w ∈ v, e = .handleClipboardRequest → w.desktop = true →
    step hasMimeType mangled android v e =
      some (if w.service.mSupportClipboard then w.call (.sendClipboardData data) else w)

end

theorem Pasted.handle {data : List UInt8} {e : Event} (pasted : Pasted mangled data w)
    (other : e.setsClip = false) (handled : w.handle hasMimeType mangled android e = some w') :
    Pasted mangled data w' := by
  by_cases command : ∃ intent, e = .onStartCommand intent
  · obtain ⟨intent, rfl⟩ := command
    obtain ⟨s, ran, rfl⟩ := Option.map_eq_some_iff.mp handled
    exact ⟨pasted.clip, (command_clipboard (commandStep_some ran)).2 pasted.fetched⟩
  · obtain ⟨service, clip⟩ := handle_keeps (fun intent same => command ⟨intent, same⟩) handled
    refine ⟨(clip other).trans pasted.clip, ?_⟩
    rw [service]
    exact pasted.fetched

theorem pasted_of_taken {data : List UInt8} (on : w.service.mSupportClipboard = true)
    (taken : handleClipboardData mangled data w = some w') : Pasted mangled data w' := by
  rw [handleClipboardData, setServerClipboard, on] at taken
  cases fetched : w.service.mClipboard with
  | false =>
    rw [fetched] at taken
    cases taken
  | true =>
    rw [fetched] at taken
    cases taken
    exact ⟨rfl, fetched⟩

theorem pasted_answers {data : List UInt8} {text : JString}
    (documented : ∀ types, hasMimeType types MIMETYPE_TEXT_PLAIN = true ↔ MIMETYPE_TEXT_PLAIN ∈ types)
    (valid : ModifiedUtf8.utf8.read data = some text) (filled : data ≠ []) (pasted : Pasted mangled data w) :
    Answers hasMimeType mangled android data (some w) .handleClipboardRequest := by
  rintro _ ⟨⟩ - desktop
  rw [step, World.handle, if_pos desktop]
  cases on : w.service.mSupportClipboard with
  | false => exact request_unshared on
  | true =>
    have nonempty : newStringUTF mangled data ≠ [] := by
      rw [Ne, ← chars_empty_iff, chars_of_newStringUTF valid]
      exact filled
    rw [request_sends documented on pasted.fetched pasted.clip (List.mem_singleton.mpr rfl) rfl, if_neg nonempty,
      chars_of_newStringUTF valid]
    rfl

/-- What a client pasted is what every client gets, until another clip is set. -/
theorem pasted_returned {data : List UInt8} {text : JString} {v : World} {run : List Event}
    (documented : ∀ types, hasMimeType types MIMETYPE_TEXT_PLAIN = true ↔ MIMETYPE_TEXT_PLAIN ∈ types)
    (valid : ModifiedUtf8.utf8.read data = some text) (filled : data ≠ []) (desktop : w.desktop = true)
    (on : w.service.mSupportClipboard = true)
    (taken : w.handle hasMimeType mangled android (.handleClipboardData data) = some v)
    (others : ∀ e ∈ run, e.setsClip = false) :
    Runs.Along (step hasMimeType mangled android) (Answers hasMimeType mangled android data) (some v) run := by
  have pasted : Pasted mangled data v := by
    rw [World.handle, if_pos desktop] at taken
    exact pasted_of_taken on taken
  apply Runs.along_of_invariant (I := fun v => ∀ w ∈ v, Pasted mangled data w)
  · rintro _ ⟨⟩
    exact pasted
  · intro state e member here
    cases state with
    | none =>
      constructor
      · rintro _ ⟨⟩
      · rintro _ ⟨⟩
    | some w =>
      refine ⟨?_, fun w' handled => (here w rfl).handle (others e member) handled⟩
      rintro _ ⟨⟩ rfl
      exact pasted_answers documented valid filled (here w rfl) w rfl rfl

def greeting : List UInt8 := [104, 105]

def greeted : World :=
  { service := { mClipboard := true }, desktop := true
    primaryClip := some (newPlainText (newStringUTF (fun _ => []) greeting)) }

theorem pasted_returned_greeting :
    Runs.Along (step List.contains (fun _ => []) .calm) (Answers List.contains (fun _ => []) .calm greeting)
      (some greeted) [.handleClipboardRequest, .onStartCommand { clipboard := some false },
        .handleClipboardRequest, .onStartCommand { clipboard := some true }, .handleClipboardRequest] := by
  have valid : ModifiedUtf8.utf8.read greeting = some [104, 105] :=
    ModifiedUtf8.utf8.read_iff.mpr (by decide)
  apply pasted_returned (w := { service := { mClipboard := true }, desktop := true })
    (fun _ => List.contains_iff_mem) valid (by decide) rfl rfl
  · rfl
  · decide

end Sharing

end VncFlinger.Service
