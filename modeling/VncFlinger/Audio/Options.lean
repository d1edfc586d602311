import VncFlinger.Audio.Sockets

/-!
# The options of the audio streamer

`audio_main` reads its options into globals, and the kind of the socket is chosen from them
afterwards. The globals outlive the call, and what one option sets another need not clear.
-/

namespace VncFlinger.Audio

abbrev DEFAULT_SOCKET_TCP_PORT : Int32 := 9200

abbrev DEFAULT_SOCKET_UNIX_NAME : String := "audiostreamer"

structure Globals extends Sockets where
  gSocketTCPPort : Int32 := DEFAULT_SOCKET_TCP_PORT
  gSocketName : Option String := none
  deriving DecidableEq, Repr

/-- A socket by its kind, with the argument of the function that creates it. -/
inductive Transport where
  | android (name : String)
  | unix (name : Option String)
  | tcp (port : Int32)
  deriving DecidableEq, Repr

def isSpace (c : Char) : Bool := c.toNat = 32 || (9 ≤ c.toNat && c.toNat ≤ 13)

/-- The value of the digits that a string begins with, behind white space and a sign. Out of range C
leaves the result open: the machine limits it to 64 bits and keeps the lower 32. -/
def atoi (s : String) : Int32 :=
  let text := s.toList.dropWhile isSpace
  let signed := text.head?.any fun c => c = '-' || c = '+'
  let digits := (if signed then text.tail else text).takeWhile Char.isDigit
  let value : Int := digits.foldl (fun n c => 10 * n + (c.toNat - 48 : Nat)) 0
  let whole := if text.head? = some '-' then -value else value
  Int32.ofInt (max (-0x8000000000000000) (min 0x7fffffffffffffff whole))

/-- The start of `audiostreamer_create_thread`: which function it calls, with what. -/
def Globals.transport (g : Globals) : Transport :=
  if g.gUsingSocketAndroid then .android DEFAULT_SOCKET_UNIX_NAME
  else if g.gUsingSocketUnix then .unix g.gSocketName
  else .tcp g.gSocketTCPPort

/-- The loop of `audio_main`: whether it gets to the end of the arguments, and what it has set. -/
def readArguments : List String → Globals → Bool × Globals
  | [], g => (true, g)
  | arg :: rest, g =>
    if arg = "-T" then
      let g := { g with gUsingSocketAndroid := false }
      match rest with
      | port :: rest => readArguments rest { g with gSocketTCPPort := atoi port }
      | [] => (true, { g with gSocketTCPPort := DEFAULT_SOCKET_TCP_PORT })
    else if arg = "-U" then
      (rest.isEmpty, { g with gUsingSocketAndroid := true })
    else if arg = "-u" then
      let g := { g with gUsingSocketAndroid := false, gUsingSocketUnix := true }
      match rest with
      | name :: rest => readArguments rest { g with gSocketName := some name }
      | [] => (true, { g with gSocketName := some ("@" ++ DEFAULT_SOCKET_UNIX_NAME) })
    else (false, g)

/-- `argv` without the program's name. The socket is opened unless the usage is shown. -/
def audioMain (argv : List String) (g : Globals) : Globals × Option Transport :=
  if argv.isEmpty then (g, none)
  else
    let (accepted, g) := readArguments argv g
    (g, if accepted then some g.transport else none)

def Transport.create (o : Creation) : Transport → ℤ × List Call
  | .android _ => createAndroidSocket o
  | .unix _ => createUnixSocket o
  | .tcp _ => createTCPSocket o

theorem transport_create (g : Globals) (o : Creation) : g.transport.create o = g.toSockets.create o := by
  unfold Globals.transport Sockets.create
  split
  · rfl
  · split <;> rfl

/-! ### Argument vectors as options -/

inductive AudioOption where
  | T (port : Option String)
  | U
  | u (name : Option String)
  deriving DecidableEq, Repr

/-- The socket that the usage message promises for an option. -/
def AudioOption.transport : AudioOption → Transport
  | .T port => .tcp (port.elim DEFAULT_SOCKET_TCP_PORT atoi)
  | .U => .android DEFAULT_SOCKET_UNIX_NAME
  | .u name => .unix (some (name.getD ("@" ++ DEFAULT_SOCKET_UNIX_NAME)))

def AudioOption.set (g : Globals) : AudioOption → Globals
  | .T port => { g with gUsingSocketAndroid := false, gSocketTCPPort := port.elim DEFAULT_SOCKET_TCP_PORT atoi }
  | .U => { g with gUsingSocketAndroid := true }
  | .u name => { g with
      gUsingSocketAndroid := false, gUsingSocketUnix := true
      gSocketName := some (name.getD ("@" ++ DEFAULT_SOCKET_UNIX_NAME)) }

/-- The options that are read before the end or before the usage is shown. -/
def optionsOf : List String → List AudioOption
  | [] => []
  | arg :: rest =>
    if arg = "-T" then
      match rest with
      | port :: rest => .T (some port) :: optionsOf rest
      | [] => [.T none]
    else if arg = "-U" then [.U]
    else if arg = "-u" then
      match rest with
      | name :: rest => .u (some name) :: optionsOf rest
      | [] => [.u none]
    else []

theorem optionsOf_T (port : String) (rest : List String) :
    optionsOf ("-T" :: port :: rest) = .T (some port) :: optionsOf rest := by
  rw [optionsOf.eq_def]
  rfl

theorem optionsOf_u (name : String) (rest : List String) :
    optionsOf ("-u" :: name :: rest) = .u (some name) :: optionsOf rest := by
  rw [optionsOf.eq_def]
  rfl

theorem readArguments_globals (argv : List String) (g : Globals) :
    (readArguments argv g).2 = (optionsOf argv).foldl AudioOption.set g := by
  fun_induction readArguments argv g with
  | case1 g => rfl
  | case2 g g' port rest ih =>
    rw [ih, optionsOf_T]
    rfl
  | case3 g g' =>
    rw [optionsOf.eq_def]
    rfl
  | case4 rest g other =>
    rw [optionsOf.eq_def]
    rfl
  | case5 g g' name rest notT notU ih =>
    rw [ih, optionsOf_u]
    rfl
  | case6 g =>
    rw [optionsOf.eq_def]
    rfl
  | case7 arg rest g notT notU notu =>
    rw [optionsOf.eq_def]
    simp only [notT, notU, notu, if_false]
    rfl

def AudioOption.words : AudioOption → List String
  | .T port => "-T" :: port.toList
  | .U => ["-U"]
  | .u name => "-u" :: name.toList

/-- The arguments that are accepted are those options and nothing else. -/
theorem readArguments_words {argv : List String} {g : Globals} (accepted : (readArguments argv g).1 = true) :
    (optionsOf argv).flatMap AudioOption.words = argv := by
  fun_induction readArguments argv g with
  | case1 g => rfl
  | case2 g g' port rest ih =>
    rw [optionsOf_T, List.flatMap_cons, ih accepted]
    rfl
  | case3 g g' =>
    rw [optionsOf.eq_def]
    rfl
  | case4 rest g other =>
    rw [List.isEmpty_iff.mp accepted, optionsOf.eq_def]
    rfl
  | case5 g g' name rest notT notU ih =>
    rw [optionsOf_u, List.flatMap_cons, ih accepted]
    rfl
  | case6 g =>
    rw [optionsOf.eq_def]
    rfl
  | case7 arg rest g notT notU notu => cases accepted

/-! ### What the options leave set -/

/-- The globals after these calls, from the start of the process. -/
def afterCalls (calls : List (List String)) : Globals := calls.foldl (fun g argv => (audioMain argv g).1) {}

theorem audioMain_globals (argv : List String) (g : Globals) :
    (audioMain argv g).1 = (optionsOf argv).foldl AudioOption.set g := by
  cases argv with
  | nil => rfl
  | cons arg rest => exact readArguments_globals (arg :: rest) g

theorem afterCalls_eq (calls : List (List String)) :
    afterCalls calls = (calls.flatMap optionsOf).foldl AudioOption.set {} := by
  unfold afterCalls
  rw [List.foldl_flatMap]
  congr 1
  funext g argv
  exact audioMain_globals argv g

theorem unix_set_iff (options : List AudioOption) (g : Globals) :
    (options.foldl AudioOption.set g).gUsingSocketUnix = true ↔
      g.gUsingSocketUnix = true ∨ ∃ name, .u name ∈ options := by
  induction options generalizing g with
  | nil => simp
  | cons o rest ih =>
    rw [List.foldl_cons, ih]
    cases o with
    | T port => simp [AudioOption.set]
    | U => simp [AudioOption.set]
    | u name =>
      simp only [AudioOption.set, true_or, List.mem_cons, true_iff]
      exact Or.inr ⟨name, Or.inl rfl⟩

theorem transport_set_iff (o : AudioOption) (g : Globals) :
    (o.set g).transport = o.transport ↔ ((∃ port, o = .T port) → g.gUsingSocketUnix = false) := by
  cases o with
  | T port => cases unix : g.gUsingSocketUnix <;> simp [AudioOption.set, AudioOption.transport, Globals.transport, unix]
  | U => simp [AudioOption.set, AudioOption.transport, Globals.transport]
  | u name => simp [AudioOption.set, AudioOption.transport, Globals.transport]

theorem audioMain_accepted {argv : List String} {g g' : Globals} {t : Transport}
    (accepted : audioMain argv g = (g', some t)) :
    (optionsOf argv).flatMap AudioOption.words = argv ∧ argv ≠ [] ∧ t = g'.transport := by
  unfold audioMain at accepted
  split at accepted
  · cases accepted
  case isFalse some =>
    dsimp only at accepted
    split at accepted
    case isTrue whole =>
      cases accepted
      exact ⟨readArguments_words whole, by simpa using some, rfl⟩
    · cases accepted

/-- Whatever was called before, the socket of the last option is opened, exactly if that option is not
`-T` or no `-u` has been read since the process was started. -/
theorem opens_last_iff (calls : List (List String)) {argv : List String} {g' : Globals} {t : Transport}
    (accepted : audioMain argv (afterCalls calls) = (g', some t)) :
    (∃ o ∈ (optionsOf argv).getLast?, t = o.transport) ↔
      ((∃ port, (optionsOf argv).getLast? = some (.T port)) →
        ∀ earlier ∈ calls ++ [argv], ∀ name, .u name ∉ optionsOf earlier) := by
  obtain ⟨words, given, rfl⟩ := audioMain_accepted accepted
  have after := congrArg Prod.fst accepted
  rw [audioMain_globals, afterCalls_eq, ← List.foldl_append] at after
  rcases List.eq_nil_or_concat (optionsOf argv) with none | ⟨init, last, split⟩
  · rw [none] at words
    exact absurd words.symm given
  rw [List.concat_eq_append] at split
  -- the last option sets what it sets over everything that was read before it
  let before := (calls.flatMap optionsOf ++ init).foldl AudioOption.set {}
  have set : last.set before = g' := by
    rw [split, ← List.append_assoc, List.foldl_append] at after
    exact after
  have unread : before.gUsingSocketUnix = false ↔ ∀ name, .u name ∉ calls.flatMap optionsOf ++ init := by
    rw [← Bool.not_eq_true, unix_set_iff]
    simp
  have opened : (∃ o ∈ (optionsOf argv).getLast?, g'.transport = o.transport) ↔
      (last.set before).transport = last.transport := by
    rw [split, set]
    simp
  rw [opened, transport_set_iff, split, List.getLast?_concat, unread]
  simp only [Option.some.injEq]
  refine forall_congr' ?_
  rintro ⟨port, rfl⟩
  simp only [List.mem_append, List.mem_flatMap, List.mem_singleton]
  constructor
  · rintro free earlier (called | rfl) name member
    · exact free name (Or.inl ⟨earlier, called, member⟩)
    · rw [split] at member
      exact free name (Or.inr (by simpa using member))
  · rintro free name (⟨earlier, called, member⟩ | member)
    · exact free earlier (Or.inl called) name member
    · refine free argv (Or.inr rfl) name ?_
      rw [split]
      exact List.mem_append_left _ member

theorem opens_last_iff_port :
    audioMain ["-T", "80"] (afterCalls [["-U", "x"]]) = ({ gSocketTCPPort := 80 }, some (.tcp 80)) ∧
      ∃ o ∈ (optionsOf ["-T", "80"]).getLast?, Transport.tcp 80 = o.transport := by
  have accepted : audioMain ["-T", "80"] (afterCalls [["-U", "x"]]) =
      ({ gSocketTCPPort := 80 }, some (.tcp 80)) := by decide
  have first : optionsOf ["-U", "x"] = [.U] := by decide
  have second : optionsOf ["-T", "80"] = [.T (some "80")] := by decide
  refine ⟨accepted, (opens_last_iff [["-U", "x"]] accepted).mpr fun _ earlier called name => ?_⟩
  simp only [List.cons_append, List.nil_append, List.mem_cons, List.not_mem_nil, or_false] at called
  rcases called with rfl | rfl
  · simp [first]
  · simp [second]

theorem tcp_after_unix_ignored :
    audioMain ["-T", "80"] (afterCalls [["-u"]]) =
        ({ gUsingSocketUnix := true, gSocketTCPPort := 80, gSocketName := some "@audiostreamer" },
          some (.unix (some "@audiostreamer"))) ∧
      ¬ ∃ o ∈ (optionsOf ["-T", "80"]).getLast?, Transport.unix (some "@audiostreamer") = o.transport := by
  refine ⟨by decide, ?_⟩
  rintro ⟨o, last, same⟩
  have only : (optionsOf ["-T", "80"]).getLast? = some (.T (some "80")) := by decide
  rw [only] at last
  cases last
  exact absurd same (by decide)

end VncFlinger.Audio
