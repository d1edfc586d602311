import VncFlinger.Service.Command

/-!
# Reading the clipboard

`getServerClipboard` looks for plain text among the clip's MIME types and takes the item at the
position where it found it. A clip's types and items are two lists, and neither says how long the
other is.
-/

namespace VncFlinger.Service

abbrev MIMETYPE_TEXT_PLAIN : String := "text/plain"

/-- The units of a `java.lang.String`, among which a surrogate may stand without the other. -/
abbrev JString := List UInt16

/-- A primary clip: the types of its description, and its items with the text of each, if it has one. -/
structure Clip where
  types : List String
  items : List (Option JString)
  filled : items ≠ []

inductive ClipThrow where
  | indexOutOfBounds | nullPointer
  deriving DecidableEq, Repr

/-- `getMimeType` for i, i + 1 and so on, until one is plain text. -/
def searchPlain (types : List String) (i : Nat) : Except ClipThrow Nat :=
  if within : i < types.length then
    if MIMETYPE_TEXT_PLAIN = types[i] then .ok i else searchPlain types (i + 1)
  else .error .indexOutOfBounds
termination_by types.length - i

def getItemAt (clipData : Clip) (i : Nat) : Except ClipThrow (Option JString) :=
  match clipData.items[i]? with
  | some item => .ok item
  | none => .error .indexOutOfBounds

def textOf (item : Option JString) : Except ClipThrow JString :=
  match item with
  | some text => .ok text
  | none => .error .nullPointer

section

variable (hasMimeType : List String → String → Bool)

/-- `mClipboard` is null until the clipboard has been shared. -/
def getServerClipboard (s : Fields) (primaryClip : Option Clip) : Except ClipThrow JString :=
  if !s.mSupportClipboard then .ok []
  else if !s.mClipboard then .error .nullPointer
  else
    match primaryClip with
    | none => .ok []
    | some clipData =>
      if hasMimeType clipData.types MIMETYPE_TEXT_PLAIN then do
        let i ← searchPlain clipData.types 0
        let item ← getItemAt clipData i
        textOf item
      else .ok []

/-- `CallObjectMethod` returns null for a method that throws, and `GetStringUTFChars` does not take
null: no text gets to the desktop. -/
def runJniCallbackGetClipboard (s : Fields) (primaryClip : Option Clip) : Option JString :=
  match getServerClipboard hasMimeType s primaryClip with
  | .ok jtext => some jtext
  | .error _ => none

def NothingToPaste (s : Fields) (primaryClip : Option Clip) : Prop :=
  s.mSupportClipboard = false ∨
    ∀ clip ∈ primaryClip, MIMETYPE_TEXT_PLAIN ∉ clip.types ∨ ∀ item ∈ clip.items, item = none

/-- The call returns the text of an item, or the empty string when there is none to paste. -/
def Pastes (s : Fields) (primaryClip : Option Clip) : Prop :=
  ∃ text, getServerClipboard hasMimeType s primaryClip = .ok text ∧
    ((∃ clip ∈ primaryClip, some text ∈ clip.items) ∨ text = [] ∧ NothingToPaste s primaryClip)

end

/-- The item that goes by the position of plain text among the types has a text. -/
def Aligned (clip : Clip) : Prop :=
  ∃ text, clip.items[clip.types.idxOf MIMETYPE_TEXT_PLAIN]? = some (some text)

/-! ### The search -/

theorem searchPlain_eq (types : List String) (i : Nat) : searchPlain types i =
    if MIMETYPE_TEXT_PLAIN ∈ types.drop i then .ok (i + (types.drop i).idxOf MIMETYPE_TEXT_PLAIN)
    else .error .indexOutOfBounds := by
  fun_induction searchPlain types i with
  | case1 i within found =>
    rw [List.drop_eq_getElem_cons within, ← found]
    simp
  | case2 i within other ih =>
    have passed : (types[i] == MIMETYPE_TEXT_PLAIN) = false := beq_false_of_ne (Ne.symm other)
    rw [ih, List.drop_eq_getElem_cons within, List.idxOf_cons, passed]
    simp only [List.mem_cons, other, false_or, cond_false, Nat.add_assoc, Nat.add_comm 1]
  | case3 i beyond =>
    rw [List.drop_eq_nil_of_le (Nat.not_lt.mp beyond)]
    simp

theorem searchPlain_found {types : List String} (plain : MIMETYPE_TEXT_PLAIN ∈ types) :
    searchPlain types 0 = .ok (types.idxOf MIMETYPE_TEXT_PLAIN) := by
  rw [searchPlain_eq, List.drop_zero, if_pos plain, Nat.zero_add]

/-! ### The exact condition -/

section

variable {hasMimeType : List String → String → Bool}
  (documented : ∀ types, hasMimeType types MIMETYPE_TEXT_PLAIN = true ↔ MIMETYPE_TEXT_PLAIN ∈ types)

theorem getServerClipboard_null {s : Fields} (shared : s.mSupportClipboard = true) (null : s.mClipboard = false)
    (primaryClip : Option Clip) : getServerClipboard hasMimeType s primaryClip = .error .nullPointer := by
  unfold getServerClipboard
  rw [shared, null]
  rfl

theorem getServerClipboard_plain {s : Fields} (shared : s.mSupportClipboard = true) (fetched : s.mClipboard = true)
    {clip : Clip}
    (plain : MIMETYPE_TEXT_PLAIN ∈ clip.types) (has : hasMimeType clip.types MIMETYPE_TEXT_PLAIN = true) :
    getServerClipboard hasMimeType s (some clip) =
      getItemAt clip (clip.types.idxOf MIMETYPE_TEXT_PLAIN) >>= textOf := by
  simp only [getServerClipboard, shared, fetched, has, searchPlain_found plain]
  rfl

theorem item_text_iff (clip : Clip) (i : Nat) (text : JString) :
    getItemAt clip i >>= textOf = .ok text ↔ clip.items[i]? = some (some text) := by
  unfold getItemAt
  cases found : clip.items[i]? with
  | none => simp [bind, Except.bind]
  | some item => cases item <;> simp [bind, Except.bind, textOf]

theorem getServerClipboard_empty {s : Fields} {primaryClip : Option Clip}
    (none : s.mSupportClipboard = true → s.mClipboard = true ∧
      ∀ clip ∈ primaryClip, hasMimeType clip.types MIMETYPE_TEXT_PLAIN = false) :
    getServerClipboard hasMimeType s primaryClip = .ok [] := by
  unfold getServerClipboard
  cases shared : s.mSupportClipboard with
  | false => rfl
  | true =>
    obtain ⟨fetched, none⟩ := none shared
    rw [fetched]
    cases primaryClip with
    | none => rfl
    | some clip => simp [none clip rfl]

theorem desktop_gets {s : Fields} {primaryClip : Option Clip} (pastes : Pastes hasMimeType s primaryClip) :
    ∃ text, runJniCallbackGetClipboard hasMimeType s primaryClip = some text := by
  obtain ⟨text, returned, -⟩ := pastes
  exact ⟨text, by rw [runJniCallbackGetClipboard, returned]⟩

include documented

theorem pastes_iff (s : Fields) (primaryClip : Option Clip) : Pastes hasMimeType s primaryClip ↔
    (s.mSupportClipboard = true → s.mClipboard = true ∧
      ∀ clip ∈ primaryClip, MIMETYPE_TEXT_PLAIN ∈ clip.types → Aligned clip) := by
  constructor
  · rintro ⟨text, returned, -⟩ shared
    have fetched : s.mClipboard = true := by
      cases null : s.mClipboard with
      | true => rfl
      | false =>
        rw [getServerClipboard_null shared null] at returned
        cases returned
    refine ⟨fetched, ?_⟩
    rintro clip rfl plain
    rw [getServerClipboard_plain shared fetched plain ((documented _).mpr plain), item_text_iff] at returned
    exact ⟨text, returned⟩
  · intro ready
    by_cases look : s.mSupportClipboard = true ∧ ∃ clip ∈ primaryClip, MIMETYPE_TEXT_PLAIN ∈ clip.types
    · obtain ⟨shared, clip, rfl, plain⟩ := look
      obtain ⟨fetched, aligned⟩ := ready shared
      obtain ⟨text, item⟩ := aligned clip rfl plain
      refine ⟨text, ?_, Or.inl ⟨clip, rfl, List.mem_of_getElem? item⟩⟩
      rw [getServerClipboard_plain shared fetched plain ((documented _).mpr plain), item_text_iff]
      exact item
    · have nothing : s.mSupportClipboard = true → ∀ clip ∈ primaryClip, MIMETYPE_TEXT_PLAIN ∉ clip.types :=
        fun shared clip has plain => look ⟨shared, clip, has, plain⟩
      refine ⟨[], getServerClipboard_empty fun shared => ⟨(ready shared).1, ?_⟩, Or.inr ⟨rfl, ?_⟩⟩
      · intro clip has
        rw [← Bool.not_eq_true, documented]
        exact nothing shared clip has
      · cases shared : s.mSupportClipboard with
        | false => exact Or.inl shared
        | true => exact Or.inr fun clip has => Or.inl (nothing shared clip has)

end

def hello : JString := [0x68, 0x65, 0x6c, 0x6c, 0x6f]

/-- A text copied from a browser: its styled form comes first among the types, and it is one item. -/
def styled : Clip := ⟨["text/html", "text/plain"], [some hello], by simp⟩

/-- Plain text by its type, with an item that has only an address. -/
def addressOnly : Clip := ⟨["text/plain"], [none], by simp⟩

def copied : Clip := ⟨["text/plain", "text/html"], [some hello], by simp⟩

/-- A service that shares the clipboard. -/
def sharing : Fields := { mClipboard := true }

theorem pastes_iff_copied : (∀ types : List String, types.contains MIMETYPE_TEXT_PLAIN = true ↔
      MIMETYPE_TEXT_PLAIN ∈ types) ∧ Pastes List.contains sharing (some copied) := by
  have documented : ∀ types : List String, types.contains MIMETYPE_TEXT_PLAIN = true ↔
      MIMETYPE_TEXT_PLAIN ∈ types := fun types => List.contains_iff_mem
  refine ⟨documented, (pastes_iff documented sharing (some copied)).mpr fun _ => ⟨rfl, ?_⟩⟩
  rintro clip ⟨⟩ -
  exact ⟨hello, rfl⟩

theorem styled_text_throws :
    getServerClipboard List.contains sharing (some styled) = .error .indexOutOfBounds ∧
      getServerClipboard List.contains sharing (some addressOnly) = .error .nullPointer ∧
      runJniCallbackGetClipboard List.contains sharing (some styled) = none ∧
      ¬ Pastes List.contains sharing (some styled) ∧ ¬ Pastes List.contains sharing (some addressOnly) := by
  have second : styled.types.idxOf MIMETYPE_TEXT_PLAIN = 1 := by decide
  have only : addressOnly.types.idxOf MIMETYPE_TEXT_PLAIN = 0 := by decide
  have beyond : getServerClipboard List.contains sharing (some styled) = .error .indexOutOfBounds := by
    rw [getServerClipboard_plain rfl rfl (by simp [styled]) (by simp [styled]), second]
    rfl
  have textless : getServerClipboard List.contains sharing (some addressOnly) = .error .nullPointer := by
    rw [getServerClipboard_plain rfl rfl (by simp [addressOnly]) (by simp [addressOnly]), only]
    rfl
  refine ⟨beyond, textless, by rw [runJniCallbackGetClipboard, beyond], ?_, ?_⟩
  · rintro ⟨text, returned, -⟩
    exact absurd (beyond.symm.trans returned) (by simp)
  · rintro ⟨text, returned, -⟩
    exact absurd (textless.symm.trans returned) (by simp)

end VncFlinger.Service
