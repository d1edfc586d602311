import Mathlib.Data.List.Basic
import Mathlib.Data.Nat.Notation

/-!
# The arguments of the server

`desktopSetup` reads its arguments one by one: with the next word as the value of a parameter, else as
a setting of its own, else as an option. What a parameter takes is the configuration's business.
-/

namespace VncFlinger.Arguments

variable {σ : Type}

abbrev Word := List Char

/-- `rfb::Configuration`: `setParam` with a name and a value, and with a whole argument. -/
structure Configuration (σ : Type) where
  setParam : σ → Word → Word → Option σ
  setConfig : σ → Word → Option σ

inductive Setting where
  | param (name value : Word)
  | config (argument : Word)
  | pid (file : Word)
  deriving DecidableEq, Repr

/-- `made` records the settings in the order they were made. -/
structure Setup (σ : Type) where
  config : σ
  mPidFile : Word := []
  desktop : Bool := false
  made : List Setting := []
  deriving DecidableEq, Repr

abbrev pidOption : Word := "-pid".toList

abbrev versionOptions : List Word := ["-v", "-version", "--version"].map String.toList

section

variable (c : Configuration σ)

def asParam (config : σ) (arg : Word) : List Word → Option (Setting × List Word)
  | [] => none
  | value :: rest =>
    if arg.head? = some '-' ∧ (c.setParam config arg.tail value).isSome then
      some (.param arg.tail value, rest)
    else none

def asPid (arg : Word) : List Word → Option (Setting × List Word)
  | [] => none
  | file :: rest => if arg = pidOption then some (.pid file, rest) else none

/-- One iteration: what it sets and the words after it, or the code that is returned. -/
def iteration (config : σ) (arg : Word) (rest : List Word) : Except ℕ (Setting × List Word) :=
  match asParam c config arg rest with
  | some read => .ok read
  | none =>
    if (c.setConfig config arg).isSome then .ok (.config arg, rest)
    else if arg.head? = some '-' then
      match asPid arg rest with
      | some read => .ok read
      | none => if arg ∈ versionOptions then .error 4 else .error 2
    else .error 5

def Setup.make (s : Setup σ) (setting : Setting) : Setup σ :=
  let made := s.made ++ [setting]
  match setting with
  | .param name value => { s with config := (c.setParam s.config name value).getD s.config, made := made }
  | .config argument => { s with config := (c.setConfig s.config argument).getD s.config, made := made }
  | .pid file => { s with mPidFile := file, made := made }

def Setting.written : Setting → List Word
  | .param name value => ['-' :: name, value]
  | .config argument => [argument]
  | .pid file => [pidOption, file]

/-- What an iteration that returns nothing has read. -/
inductive Reads (config : σ) : Word → List Word → Setting → List Word → Prop
  | param {name value : Word} {rest : List Word} (taken : (c.setParam config name value).isSome = true) :
      Reads config ('-' :: name) (value :: rest) (.param name value) rest
  | config {arg : Word} {rest : List Word} (other : asParam c config arg rest = none)
      (taken : (c.setConfig config arg).isSome = true) : Reads config arg rest (.config arg) rest
  | pid {file : Word} {rest : List Word} (other : asParam c config pidOption (file :: rest) = none)
      (untaken : c.setConfig config pidOption = none) : Reads config pidOption (file :: rest) (.pid file) rest

end

variable {c : Configuration σ} {config : σ} {arg value : Word} {rest others : List Word} {setting : Setting}
  {s : Setup σ}

theorem asParam_some (read : asParam c config arg rest = some (setting, others)) :
    Reads c config arg rest setting others := by
  cases rest with
  | nil => cases read
  | cons value rest =>
    rw [asParam] at read
    split at read
    · next taken =>
      cases read
      obtain ⟨name, rfl⟩ : ∃ name, arg = '-' :: name := List.head?_eq_some_iff.mp taken.1
      exact .param taken.2
    · cases read

theorem asParam_param (taken : (c.setParam config arg value).isSome = true) :
    asParam c config ('-' :: arg) (value :: rest) = some (.param arg value, rest) := by
  rw [asParam, if_pos ⟨rfl, taken⟩]
  rfl

theorem asParam_none_iff : asParam c config arg rest = none ↔
    (arg.head? = some '-' → ∀ value ∈ rest.head?, c.setParam config arg.tail value = none) := by
  cases rest with
  | nil => simp [asParam]
  | cons value rest =>
    rw [asParam]
    split
    · next taken =>
      refine iff_of_false (Option.some_ne_none _) fun refuses => ?_
      rw [refuses taken.1 value rfl] at taken
      cases taken.2
    · next untaken =>
      refine iff_of_true rfl fun hyphen next given => ?_
      cases given
      exact Option.not_isSome_iff_eq_none.mp fun taken => untaken ⟨hyphen, taken⟩

theorem asPid_some (other : asParam c config arg rest = none) (untaken : c.setConfig config arg = none)
    (read : asPid arg rest = some (setting, others)) : Reads c config arg rest setting others := by
  cases rest with
  | nil => cases read
  | cons file rest =>
    rw [asPid] at read
    split at read
    · next option =>
      cases read
      subst option
      exact .pid other untaken
    · cases read

theorem iteration_iff : iteration c config arg rest = .ok (setting, others) ↔
    Reads c config arg rest setting others := by
  constructor
  · intro read
    rw [iteration] at read
    split at read
    · next pair found =>
      cases read
      exact asParam_some found
    · next other =>
      split at read
      · next taken =>
        cases read
        exact .config other taken
      · next untaken =>
        split at read
        · split at read
          · next pair found =>
            cases read
            exact asPid_some other (Option.not_isSome_iff_eq_none.mp untaken) found
          · split at read <;> cases read
        · cases read
  · intro read
    cases read with
    | param taken => rw [iteration, asParam_param taken]
    | config other taken => rw [iteration, other, if_pos taken]
    | pid other untaken =>
      rw [iteration, other, untaken]
      rfl

theorem Reads.written (read : Reads c config arg rest setting others) :
    arg :: rest = setting.written ++ others := by
  cases read <;> rfl

theorem Reads.shorter (read : Reads c config arg rest setting others) : others.length < rest.length + 1 := by
  cases read with
  | param | pid => exact Nat.lt_succ_of_lt (Nat.lt_succ_self _)
  | config => exact Nat.lt_succ_self _

/-- The loop, from an argument on. The desktop is there at the end. -/
def readArguments (c : Configuration σ) (args : List Word) (s : Setup σ) : ℕ × Setup σ :=
  match args with
  | [] => (0, { s with desktop := true })
  | arg :: rest =>
    match read : iteration c s.config arg rest with
    | .error code => (code, s)
    | .ok (setting, others) =>
      have := (iteration_iff.mp read).shorter
      readArguments c others (s.make c setting)
termination_by args.length
decreasing_by exact this

def desktopSetup (c : Configuration σ) (argv : List Word) (s : Setup σ) : ℕ × Setup σ :=
  readArguments c argv.tail s

/-! ### Settings as they are written -/

/-- The setting is taken in its own form: a name with a value needs only the parameter, a whole argument
must not be a name for the word after it, and the file's option must not be a parameter. -/
def Taken (c : Configuration σ) (config : σ) (next : Option Word) : Setting → Prop
  | .param name value => (c.setParam config name value).isSome = true
  | .config arg => (arg.head? = some '-' → ∀ value ∈ next, c.setParam config arg.tail value = none) ∧
      (c.setConfig config arg).isSome = true
  | .pid file => c.setParam config pidOption.tail file = none ∧ c.setConfig config pidOption = none

def Legible (c : Configuration σ) : Setup σ → List Setting → Prop
  | _, [] => True
  | s, setting :: rest =>
    Taken c s.config (rest.flatMap Setting.written).head? setting ∧ Legible c (s.make c setting) rest

theorem taken_iff (written : setting.written ++ rest = arg :: others) :
    Taken c config rest.head? setting ↔ Reads c config arg others setting rest := by
  cases setting with
  | param name value =>
    cases written
    constructor
    · exact .param
    · intro read
      cases read with
      | param taken => exact taken
  | config argument =>
    cases written
    constructor
    · rintro ⟨other, taken⟩
      exact .config (asParam_none_iff.mpr other) taken
    · intro read
      cases read with
      | config other taken => exact ⟨asParam_none_iff.mp other, taken⟩
  | pid file =>
    cases written
    constructor
    · rintro ⟨other, untaken⟩
      refine .pid (asParam_none_iff.mpr ?_) untaken
      rintro - _ ⟨⟩
      exact other
    · intro read
      cases read with
      | pid other untaken => exact ⟨asParam_none_iff.mp other rfl file rfl, untaken⟩

theorem readArguments_reads (read : Reads c s.config arg rest setting others) :
    readArguments c (arg :: rest) s = readArguments c others (s.make c setting) := by
  have ran := iteration_iff.mpr read
  rw [readArguments]
  split
  · next refused =>
    rw [ran] at refused
    cases refused
  · next ran' =>
    rw [ran] at ran'
    cases ran'
    rfl

theorem readArguments_refused {code : ℕ} (refused : iteration c s.config arg rest = .error code) :
    readArguments c (arg :: rest) s = (code, s) := by
  rw [readArguments]
  split
  · next refused' =>
    rw [refused] at refused'
    cases refused'
    rfl
  · next ran =>
    rw [refused] at ran
    cases ran

theorem make_made (s : Setup σ) (setting : Setting) : (s.make c setting).made = s.made ++ [setting] := by
  cases setting <;> rfl

theorem foldl_made (settings : List Setting) (s : Setup σ) :
    (settings.foldl (Setup.make c) s).made = s.made ++ settings := by
  induction settings generalizing s with
  | nil => exact (List.append_nil _).symm
  | cons setting rest ih => rw [List.foldl_cons, ih, make_made, List.append_assoc, List.singleton_append]

/-- What was read is recorded behind what was made before. -/
theorem readArguments_made (args : List Word) (s : Setup σ) :
    ∃ read, (readArguments c args s).2.made = s.made ++ read := by
  fun_induction readArguments c args s with
  | case1 s => exact ⟨[], (List.append_nil _).symm⟩
  | case2 s arg rest code refused => exact ⟨[], (List.append_nil _).symm⟩
  | case3 s arg rest setting others ran _ ih =>
    obtain ⟨read, made⟩ := ih
    exact ⟨setting :: read, by rw [made, make_made, List.append_assoc, List.singleton_append]⟩

theorem written_cons (setting : Setting) (words : List Word) :
    ∃ arg rest, setting.written ++ words = arg :: rest := by
  cases setting <;> exact ⟨_, _, rfl⟩

theorem readArguments_legible {settings : List Setting} (legible : Legible c s settings) :
    readArguments c (settings.flatMap Setting.written) s =
      (0, { settings.foldl (Setup.make c) s with desktop := true }) := by
  induction settings generalizing s with
  | nil =>
    rw [List.flatMap_nil, readArguments]
    rfl
  | cons setting rest ih =>
    obtain ⟨arg, words, written⟩ := written_cons setting (rest.flatMap Setting.written)
    have read := (taken_iff written).mp legible.1
    rw [List.flatMap_cons, List.foldl_cons, written, readArguments_reads read, ih legible.2]

theorem legible_of_read {settings : List Setting} {code : ℕ} {s' : Setup σ}
    (read : readArguments c (settings.flatMap Setting.written) s = (code, s'))
    (made : s'.made = s.made ++ settings) : Legible c s settings := by
  induction settings generalizing s with
  | nil => trivial
  | cons setting rest ih =>
    obtain ⟨arg, words, written⟩ := written_cons setting (rest.flatMap Setting.written)
    rw [List.flatMap_cons, written] at read
    cases ran : iteration c s.config arg words with
    | error code =>
      rw [readArguments_refused ran] at read
      cases read
      exact absurd (List.self_eq_append_right.mp made) (List.cons_ne_nil _ _)
    | ok result =>
      obtain ⟨first, others⟩ := result
      have reads := iteration_iff.mp ran
      -- what is read first is recorded first, so it is the first setting
      obtain ⟨later, recorded⟩ := readArguments_made (c := c) others (s.make c first)
      rw [← readArguments_reads reads, read, make_made, List.append_assoc, List.singleton_append, made] at recorded
      obtain ⟨rfl, rfl⟩ := List.cons.inj (List.append_cancel_left recorded)
      have left := List.append_cancel_left (written.trans reads.written)
      rw [readArguments_reads reads, ← left] at read
      refine ⟨(taken_iff written).mpr (left ▸ reads), ih read ?_⟩
      rw [made, make_made, List.append_assoc, List.singleton_append]

/-- Settings are read as they are written, and the desktop is there, if and only if each is taken in its
own form when its turn comes. -/
theorem read_as_written_iff (c : Configuration σ) (program : Word) (settings : List Setting) (s : Setup σ) :
    desktopSetup c (program :: settings.flatMap Setting.written) s =
        (0, { settings.foldl (Setup.make c) s with desktop := true }) ↔ Legible c s settings :=
  ⟨fun read => legible_of_read read (foldl_made settings s), readArguments_legible⟩

/-! ### A call that fails -/

theorem iteration_code {code : ℕ} (refused : iteration c config arg rest = .error code) :
    code = 2 ∨ code = 4 ∨ code = 5 := by
  rw [iteration] at refused
  split at refused
  · cases refused
  · split at refused
    · cases refused
    · split at refused
      · split at refused
        · cases refused
        · split at refused
          · cases refused
            exact Or.inr (Or.inl rfl)
          · cases refused
            exact Or.inl rfl
      · cases refused
        exact Or.inr (Or.inr rfl)

/-- The settings made before the word that is refused stay, and there is no desktop. -/
theorem readArguments_fails (args : List Word) (s : Setup σ) (failed : (readArguments c args s).1 ≠ 0) :
    (readArguments c args s).2.desktop = s.desktop ∧
      ((readArguments c args s).1 = 2 ∨ (readArguments c args s).1 = 4 ∨ (readArguments c args s).1 = 5) ∧
      ∃ made : List Setting, (readArguments c args s).2 = made.foldl (Setup.make c) s := by
  fun_induction readArguments c args s with
  | case1 s => exact absurd rfl failed
  | case2 s arg rest code refused => exact ⟨rfl, iteration_code refused, [], rfl⟩
  | case3 s arg rest setting others ran _ ih =>
    obtain ⟨desktop, codes, made, same⟩ := ih failed
    refine ⟨desktop.trans ?_, codes, setting :: made, same⟩
    cases setting <;> rfl

/-! ### The listener -/

/-- The parameters of the server. -/
structure Parameters where
  rfbport : Int32 := 5900
  localhostOnly : Bool := false
  rfbunixandroid : Bool := true
  rfbunixpath : Word := []
  rfbunixmode : Int32 := 0o600
  deriving DecidableEq, Repr

inductive Listener where
  | android (name : Word)
  | unix (path : Word) (mode : Int32)
  | absUnix (name : Word)
  | localTcp (port : Int32)
  | tcp (port : Int32)
  deriving DecidableEq, Repr

/-- The listener that `startService` creates. -/
def Parameters.listener (p : Parameters) : Listener :=
  if p.rfbunixpath ≠ [] then
    if p.rfbunixandroid then .android p.rfbunixpath
    else if p.rfbunixpath.head? ≠ some '@' then .unix p.rfbunixpath p.rfbunixmode
    else .absUnix p.rfbunixpath
  else if p.localhostOnly then .localTcp p.rfbport
  else .tcp p.rfbport

def mVNCFlingerArgs : List Word :=
  ["vncflinger", "-rfbunixandroid", "0", "-rfbunixpath", "@vncflinger", "-SecurityTypes", "None"].map String.toList

def serviceSettings : List Setting :=
  [.param "rfbunixandroid".toList "0".toList, .param "rfbunixpath".toList "@vncflinger".toList,
    .param "SecurityTypes".toList "None".toList]

/-- A configuration that has the parameters of the server, and the security types among others. -/
structure Holds (c : Configuration σ) (parameters : σ → Parameters) : Prop where
  unixandroid (s : σ) : ∃ s', c.setParam s "rfbunixandroid".toList "0".toList = some s' ∧
    parameters s' = { parameters s with rfbunixandroid := false }
  unixpath (s : σ) (path : Word) : ∃ s', c.setParam s "rfbunixpath".toList path = some s' ∧
    parameters s' = { parameters s with rfbunixpath := path }
  security (s : σ) : ∃ s', c.setParam s "SecurityTypes".toList "None".toList = some s' ∧
    parameters s' = parameters s

/-- Whatever an earlier session left in the parameters, the service's server listens on its abstract
socket. -/
theorem service_listens {parameters : σ → Parameters} (holds : Holds c parameters) (s : Setup σ) :
    (desktopSetup c mVNCFlingerArgs s).1 = 0 ∧ (desktopSetup c mVNCFlingerArgs s).2.desktop = true ∧
      (parameters (desktopSetup c mVNCFlingerArgs s).2.config).listener = .absUnix "@vncflinger".toList := by
  obtain ⟨android, set, unixandroid⟩ := holds.unixandroid s.config
  obtain ⟨path, set', unixpath⟩ := holds.unixpath android "@vncflinger".toList
  obtain ⟨security, set'', same⟩ := holds.security path
  have final : (serviceSettings.foldl (Setup.make c) s).config = security := by
    simp only [serviceSettings, List.foldl_cons, List.foldl_nil, Setup.make, set, set', set'', Option.getD_some]
  have legible : Legible c s serviceSettings := by
    simp only [serviceSettings, Legible, Taken, Setup.make, set, set', set'', Option.getD_some,
      Option.isSome_some, and_self]
  have settings : mVNCFlingerArgs = "vncflinger".toList :: serviceSettings.flatMap Setting.written := by
    decide
  have read : desktopSetup c mVNCFlingerArgs s =
      (0, { serviceSettings.foldl (Setup.make c) s with desktop := true }) := by
    rw [settings]
    exact readArguments_legible legible
  rw [read]
  refine ⟨rfl, rfl, ?_⟩
  show (parameters (serviceSettings.foldl (Setup.make c) s).config).listener = _
  rw [final, same, unixpath, unixandroid]
  rfl

/-- Of the parameters, those that the service sets. No listener depends on the security types. -/
def serviceParameters : Configuration Parameters where
  setParam p name value :=
    if name = "rfbunixandroid".toList then some { p with rfbunixandroid := value ≠ "0".toList }
    else if name = "rfbunixpath".toList then some { p with rfbunixpath := value }
    else if name = "SecurityTypes".toList then some p
    else none
  setConfig _ _ := none

theorem serviceParameters_holds : Holds serviceParameters id :=
  ⟨fun _ => ⟨_, rfl, rfl⟩, fun _ _ => ⟨_, rfl, rfl⟩, fun _ => ⟨_, rfl, rfl⟩⟩

/-- A session that listened on TCP leaves its parameters behind. -/
example : (desktopSetup serviceParameters mVNCFlingerArgs { config := { localhostOnly := true } }).2.config.listener =
    .absUnix "@vncflinger".toList :=
  (service_listens serviceParameters_holds _).2.2

end VncFlinger.Arguments
