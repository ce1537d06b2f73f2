import Irrigation.Arguments.Reader
import Irrigation.Proofs.ExceptLemmas

/-!
# Values that words leave alone

Some values do not matter to how words are read. A change of them before the words shows as the same
change behind them.

* `Arguments.Unnoticed`: no option looks at what a change touches, except perhaps the request to
  show the settings. `Arguments.unnoticed_mapSwitches`: changes of what switches give are such.
* `ArgumentScan.step_map`: such a change does not matter to one word. `ArgumentScan.foldlM_map`: nor
  to all words, if not even the request looks at it.
* `Arguments.showing`: the change that makes the request.
  `Arguments.parse_showConfig_cons`: what words mean with the request in front of them.
* `Arguments.louder`: the change that asks for more diagnostics.
  `Arguments.parse_replicate_verbose`: what words mean with any number of requests in front of them.
-/

namespace Irrigation

/-- A change of values that no option notices, except perhaps the request to show the settings. -/
structure Arguments.Unnoticed (change : Arguments → Arguments) : Prop where
  isGiven_eq : ∀ arguments option, (change arguments).isGiven option = arguments.isGiven option
  assign_eq : ∀ arguments option text,
    (change arguments).assign option text = (arguments.assign option text).map change
  apply_eq : ∀ arguments switch, switch ≠ Switch.showConfig →
    (change arguments).apply switch = (arguments.apply switch).map change

/-- The values with a change of those that switches give. -/
def Arguments.mapSwitches (verbosity : Nat → Nat) (showConfig : Bool → Bool)
    (arguments : Arguments) : Arguments :=
  { arguments with
    verbosity := verbosity arguments.verbosity
    showConfig := showConfig arguments.showConfig }

/-- Options with a value do not notice what switches give, and of the switches only the requests for
diagnostics and for the settings do. -/
theorem Arguments.unnoticed_mapSwitches (verbosity : Nat → Nat) (showConfig : Bool → Bool)
    (hverbosity : ∀ count,
      verbosity (min (count + 1) maxVerbosity) = min (verbosity count + 1) maxVerbosity) :
    Unnoticed (mapSwitches verbosity showConfig) where
  isGiven_eq arguments option := by cases option <;> rfl
  assign_eq arguments option text := by
    cases option with
    | device | command => rfl
    | unit | zone =>
      simp only [assign]
      cases readInt64 text <;> rfl
    | timers =>
      simp only [assign]
      cases TimerList.parse text <;> rfl
    | completions =>
      simp only [assign]
      cases Shell.ofWord? text <;> rfl
  apply_eq arguments switch h := by
    cases switch with
    | verbose => simp only [apply, mapSwitches, Except.map, hverbosity]
    | showConfig => exact absurd rfl h
    | help | version => rfl

namespace ArgumentScan

/-- The scan with a change of the values read so far. -/
def map (change : Arguments → Arguments) (scan : ArgumentScan) : ArgumentScan :=
  { scan with settled := change scan.settled }

variable {change : Arguments → Arguments} (unnoticed : Arguments.Unnoticed change)

/-! ## One word -/

include unnoticed

theorem store_map (arguments : Arguments) (option : ValueOption) (text : String) :
    (change arguments).store option text = (arguments.store option text).map change := by
  rw [Arguments.store, Arguments.store, unnoticed.isGiven_eq, unnoticed.assign_eq]
  split <;> rfl

theorem settleOrStop_map (scan : ArgumentScan) :
    (scan.map change).settleOrStop = scan.settleOrStop.map change := by
  obtain ⟨settled, _ | ⟨option, _ | text⟩, ended⟩ := scan
  · rfl
  · rfl
  · simp only [settleOrStop, settle, map, store_map unnoticed]
    cases settled.store option text <;> rfl

theorem meet_map (scan : ArgumentScan) (option : ValueOption) (attached : Option String) :
    (scan.map change).meet option attached = (scan.meet option attached).map (map change) := by
  rw [meet, meet, settleOrStop_map unnoticed]
  cases scan.settleOrStop with
  | error stop => rfl
  | ok settled =>
    cases attached with
    | none => rfl
    | some text =>
      simp only [Except.map, ok_bind, store_map unnoticed]
      cases settled.store option text <;> rfl

theorem meetSwitch_map {switch : Switch}
    (happly : ∀ arguments, (change arguments).apply switch = (arguments.apply switch).map change)
    (scan : ArgumentScan) :
    (scan.map change).meetSwitch switch = (scan.meetSwitch switch).map (map change) := by
  rw [meetSwitch, meetSwitch, settleOrStop_map unnoticed]
  cases scan.settleOrStop with
  | error stop => rfl
  | ok settled =>
    simp only [Except.map, ok_bind, happly]
    cases settled.apply switch <;> rfl

omit unnoticed in
theorem supply_map (change : Arguments → Arguments) (scan : ArgumentScan) (word : String) :
    (scan.map change).supply word = (scan.supply word).map (map change) := by
  obtain ⟨settled, _ | ⟨option, _ | text⟩, ended⟩ := scan <;> rfl

omit unnoticed in
/-- No letter stands for the request. -/
theorem ofLetter?_ne_showConfig (letter : Char) :
    OptionName.ofLetter? letter ≠ some (.switch .showConfig) := by
  unfold OptionName.ofLetter?
  split <;> exact nofun

theorem readLetters_map (scan : ArgumentScan) (letters : List Char) :
    (scan.map change).readLetters letters = (scan.readLetters letters).map (map change) := by
  induction letters generalizing scan with
  | nil => rfl
  | cons letter rest ih =>
    rw [readLetters, readLetters]
    cases hname : OptionName.ofLetter? letter with
    | none => rfl
    | some name =>
      cases name with
      | value option => exact meet_map unnoticed scan option _
      | switch switch =>
        have hswitch : switch ≠ .showConfig := by
          rintro rfl
          exact ofLetter?_ne_showConfig letter hname
        simp only [meetSwitch_map unnoticed fun arguments =>
          unnoticed.apply_eq arguments switch hswitch]
        cases scan.meetSwitch switch with
        | error stop => rfl
        | ok next => exact ih next

theorem readLong_map (scan : ArgumentScan) (chars : List Char) :
    (scan.map change).readLong chars = (scan.readLong chars).map (map change) ∨
      ∀ scan : ArgumentScan, scan.readLong chars = scan.meetSwitch .showConfig := by
  unfold readLong
  extract_lets name attached
  cases OptionName.ofLongName? name with
  | none => exact .inl rfl
  | some option =>
    cases option with
    | value option => exact .inl (meet_map unnoticed scan option attached)
    | switch switch =>
      cases attached with
      | some text => exact .inl rfl
      | none =>
        by_cases hswitch : switch = .showConfig
        · subst hswitch
          exact .inr fun _ => rfl
        · exact .inl (meetSwitch_map unnoticed
            (fun arguments => unnoticed.apply_eq arguments switch hswitch) scan)

/-- The change does not matter to a word, unless the word is the request to show the settings. -/
theorem step_map (scan : ArgumentScan) (word : String) :
    (scan.map change).step word = (scan.step word).map (map change) ∨
      scan.step word = scan.meetSwitch .showConfig ∧
        (scan.map change).step word = (scan.map change).meetSwitch .showConfig := by
  have hended : (scan.map change).optionsEnded = scan.optionsEnded := rfl
  have hawaits : (scan.map change).awaitsNumber = scan.awaitsNumber := rfl
  simp only [step, hended, hawaits]
  split
  · exact .inl rfl
  · split
    · exact .inl rfl
    · exact (readLong_map unnoticed scan _).imp_right fun h => ⟨h scan, h (scan.map change)⟩
    · split
      · exact .inl (supply_map change scan word)
      · exact .inl (readLetters_map unnoticed scan _)
    · exact .inl (supply_map change scan word)

/-! ## All words -/

/-- A change that not even the request notices does not matter to words. -/
theorem foldlM_map
    (happly : ∀ arguments,
      (change arguments).apply .showConfig = (arguments.apply .showConfig).map change)
    (words : List String) (scan : ArgumentScan) :
    words.foldlM step (scan.map change) = (words.foldlM step scan).map (map change) := by
  induction words generalizing scan with
  | nil => rfl
  | cons word words ih =>
    have hword : (scan.map change).step word = (scan.step word).map (map change) := by
      rcases step_map unnoticed scan word with hword | ⟨hscan, hchanged⟩
      · exact hword
      · rw [hscan, hchanged, meetSwitch_map unnoticed happly]
    rw [List.foldlM_cons, List.foldlM_cons, hword]
    cases scan.step word with
    | error stop => rfl
    | ok next => exact ih next

end ArgumentScan

/-! ## The request to show the settings -/

/-- The values with the request to show the settings. -/
def Arguments.showing (arguments : Arguments) : Arguments := { arguments with showConfig := true }

theorem Arguments.showing_eq_self_iff {arguments : Arguments} :
    arguments.showing = arguments ↔ arguments.showConfig = true := by
  constructor
  · intro h
    rw [← h]
    rfl
  · intro h
    rw [showing, ← h]

theorem Arguments.unnoticed_showing : Unnoticed showing :=
  unnoticed_mapSwitches id (fun _ => true) fun _ => rfl

namespace ArgumentScan

variable {scan next last : ArgumentScan} {word : String} {words : List String}

theorem map_showing_eq_self_iff :
    scan.map .showing = scan ↔ scan.settled.showConfig = true := by
  rw [← Arguments.showing_eq_self_iff]
  constructor
  · exact congrArg settled
  · intro h
    rw [map, h]

theorem showConfig_of_meetSwitch (h : scan.meetSwitch .showConfig = .ok next) :
    next.settled.showConfig = true := by
  obtain ⟨settled, -, hnext⟩ := bind_eq_ok_iff.mp h
  obtain ⟨applied, happly, ⟨⟩⟩ := bind_eq_ok_iff.mp hnext
  simp only [Arguments.apply] at happly
  split at happly
  · contradiction
  · cases happly
    rfl

/-- The request does not matter to a word, unless the word makes it itself. -/
theorem step_showing (hstep : scan.step word = .ok next) :
    (scan.map .showing).step word = .ok (next.map .showing) ∨
      next.settled.showConfig = true := by
  rcases step_map Arguments.unnoticed_showing scan word with hword | ⟨hscan, -⟩
  · rw [hword, hstep]
    exact .inl rfl
  · exact .inr (showConfig_of_meetSwitch (hscan.symm.trans hstep))

/-- A request that has been made stands. -/
theorem showConfig_of_step (hstep : scan.step word = .ok next)
    (h : scan.settled.showConfig = true) : next.settled.showConfig = true := by
  rcases step_showing hstep with hword | hmade
  · rw [map_showing_eq_self_iff.mpr h, hstep] at hword
    exact map_showing_eq_self_iff.mp (Except.ok.inj hword).symm
  · exact hmade

theorem showConfig_of_foldlM (hwords : words.foldlM step scan = .ok last)
    (h : scan.settled.showConfig = true) : last.settled.showConfig = true := by
  induction words generalizing scan with
  | nil =>
    cases hwords
    exact h
  | cons word words ih =>
    rw [List.foldlM_cons] at hwords
    obtain ⟨next, hstep, hrest⟩ := bind_eq_ok_iff.mp hwords
    exact ih hrest (showConfig_of_step hstep h)

/-- The request does not matter to words that do not make it. -/
theorem foldlM_showing (hwords : words.foldlM step scan = .ok last)
    (h : last.settled.showConfig = false) :
    words.foldlM step (scan.map .showing) = .ok (last.map .showing) := by
  induction words generalizing scan with
  | nil =>
    cases hwords
    rfl
  | cons word words ih =>
    rw [List.foldlM_cons] at hwords ⊢
    obtain ⟨next, hstep, hrest⟩ := bind_eq_ok_iff.mp hwords
    have hword : (scan.map .showing).step word = .ok (next.map .showing) := by
      rcases step_showing hstep with hword | hmade
      · exact hword
      · exact absurd (showConfig_of_foldlM hrest hmade) (by simp [h])
    exact bind_eq_ok_iff.mpr ⟨_, hword, ih hrest⟩

end ArgumentScan

/-- Words that do not ask for the settings mean the same with that request in front of them. -/
theorem Arguments.parse_showConfig_cons {words : List String} {arguments : Arguments}
    (hparse : parse words = .ok arguments) (h : arguments.showConfig = false) :
    parse ("--show-config" :: words) = .ok arguments.showing := by
  obtain ⟨last, hwords, hsettle⟩ := bind_eq_ok_iff.mp hparse
  have hshown := ArgumentScan.settleOrStop_map unnoticed_showing last
  rw [hsettle] at hshown
  have hlast : last.settled.showConfig = false := by
    refine Bool.eq_false_iff.mpr fun hlast => ?_
    rw [ArgumentScan.map_showing_eq_self_iff.mpr hlast, hsettle] at hshown
    exact Bool.eq_false_iff.mp h (showing_eq_self_iff.mp (Except.ok.inj hshown).symm)
  have hfirst : ArgumentScan.step {} "--show-config" = .ok (ArgumentScan.map showing {}) := by
    rfl
  refine bind_eq_ok_iff.mpr ⟨last.map showing, ?_, hshown⟩
  rw [List.foldlM_cons, hfirst]
  exact ArgumentScan.foldlM_showing hwords hlast

/-! ## Requests for diagnostics -/

namespace Arguments

/-- The values with more requests for diagnostics. -/
def louder (count : Nat) (arguments : Arguments) : Arguments :=
  { arguments with verbosity := min (arguments.verbosity + count) maxVerbosity }

theorem louder_zero {arguments : Arguments} (h : arguments.verbosity ≤ maxVerbosity) :
    arguments.louder 0 = arguments := by
  rw [louder, Nat.add_zero, Nat.min_eq_left h]

theorem louder_louder (first second : Nat) (arguments : Arguments) :
    (arguments.louder first).louder second = arguments.louder (first + second) := by
  have hverbosity : min (min (arguments.verbosity + first) maxVerbosity + second) maxVerbosity =
      min (arguments.verbosity + (first + second)) maxVerbosity := by
    omega
  rw [louder, louder, louder, ← hverbosity]

theorem unnoticed_louder (count : Nat) : Unnoticed (louder count) := by
  refine unnoticed_mapSwitches (fun verbosity => min (verbosity + count) maxVerbosity) id ?_
  intro verbosity
  omega

theorem apply_showConfig_louder (count : Nat) (arguments : Arguments) :
    (arguments.louder count).apply .showConfig =
      (arguments.apply .showConfig).map (louder count) := by
  cases hshow : arguments.showConfig <;> simp [apply, louder, hshow, Except.map]

end Arguments

theorem ArgumentScan.foldlM_replicate_verbose (count : Nat) {arguments : Arguments}
    (h : arguments.verbosity ≤ Arguments.maxVerbosity) :
    (List.replicate count "-v").foldlM step { settled := arguments } =
      .ok { settled := arguments.louder count } := by
  induction count generalizing arguments with
  | zero =>
    rw [Arguments.louder_zero h]
    rfl
  | succ count ih =>
    have hfirst : step { settled := arguments } "-v" =
        .ok { settled := arguments.louder 1 } := rfl
    rw [List.replicate_succ, List.foldlM_cons, hfirst, ok_bind, ih (Nat.min_le_right _ _),
      Arguments.louder_louder, Nat.add_comm]

/-- Words mean the same with requests for diagnostics in front of them, but for these requests,
which add up to the greatest verbosity. -/
theorem Arguments.parse_replicate_verbose (count : Nat) (words : List String) :
    parse (List.replicate count "-v" ++ words) = (parse words).map (louder count) := by
  have hrequests : (List.replicate count "-v").foldlM ArgumentScan.step {} =
      .ok (ArgumentScan.map (louder count) {}) :=
    ArgumentScan.foldlM_replicate_verbose count (Nat.zero_le _)
  rw [parse, parse, List.foldlM_append, hrequests, ok_bind,
    ArgumentScan.foldlM_map (unnoticed_louder count) (apply_showConfig_louder count)]
  cases words.foldlM ArgumentScan.step {} with
  | error stop => rfl
  | ok scan => exact ArgumentScan.settleOrStop_map (unnoticed_louder count) scan

end Irrigation
