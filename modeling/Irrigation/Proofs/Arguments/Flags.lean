import Irrigation.Proofs.Arguments
import Irrigation.Proofs.Timers.Canonical

/-!
# Flags in any order

Options are typed as flags, each with its value as a word of its own.

* `Flag`, `Flag.words`, `Flag.give`: a flag, what is typed for it, and what it gives.
* `Flag.Legible`, `Flag.IsNew`, `Flag.Apart`: the values that can be typed so, and the flags that
  can stand behind values and beside flags.
* `ArgumentScan.Holds`: a scan stands between two flags and holds values. `Holds.read_flag`: it
  reads one flag. `Holds.read_flags`: it reads flags.
* `parse_flags_append_value`: a value behind flags for other options.
* `Selection`: what can be chosen. `flags_read_in_any_order`: whatever the order of its flags, they
  give what was chosen.
-/

namespace Irrigation

/-- A flag with its value. -/
inductive Flag
  | device (text : String)
  | command (text : String)
  | unit (number : Int)
  | zone (number : Int)
  | timers (list : TimerList)
  | verbose
  | showConfig
  deriving Repr, DecidableEq

namespace Flag

/-- What is typed for a flag. -/
def words : Flag → List String
  | device text => ["-d", text]
  | command text => ["-c", text]
  | unit number => ["-u", number.repr]
  | zone number => ["-z", number.repr]
  | timers list => ["-t", list.render]
  | verbose => ["-v"]
  | showConfig => ["--show-config"]

/-- The option that a flag is for. -/
def option : Flag → OptionName
  | device _ => .value .device
  | command _ => .value .command
  | unit _ => .value .unit
  | zone _ => .value .zone
  | timers _ => .value .timers
  | verbose => .switch .verbose
  | showConfig => .switch .showConfig

/-- The values with that of a flag. -/
def give (arguments : Arguments) : Flag → Arguments
  | device text => { arguments with device := some text }
  | command text => { arguments with command := some text }
  | unit number => { arguments with unit := some number }
  | zone number => { arguments with zone := some number }
  | timers list => { arguments with timers := some list }
  | verbose =>
    { arguments with verbosity := min (arguments.verbosity + 1) Arguments.maxVerbosity }
  | showConfig => { arguments with showConfig := true }

/-- The value of a flag can be typed as a word: a text does not begin with the mark of a flag, and a
number fits 64 bits. -/
def Legible : Flag → Prop
  | device text | command text => text.toList.head? ≠ some '-'
  | unit number | zone number => -2 ^ 63 ≤ number ∧ number < 2 ^ 63
  | timers _ | verbose | showConfig => True

/-- The option of a flag has not been given yet, or it may be given again. -/
def IsNew (arguments : Arguments) (flag : Flag) : Prop :=
  match flag.option with
  | .value option => arguments.isGiven option = false
  | .switch .showConfig => arguments.showConfig = false
  | .switch _ => True

/-- Two flags can stand beside each other: they are for two options, or for one that may be given
again. -/
def Apart (flag other : Flag) : Prop :=
  flag.option ≠ other.option ∨ flag = verbose ∧ other = verbose

theorem Apart.symm {flag other : Flag} (h : flag.Apart other) : other.Apart flag := by
  rcases h with hne | ⟨hflag, hother⟩
  · exact .inl hne.symm
  · exact .inr ⟨hother, hflag⟩

/-- A flag leaves the option of another one as it is. -/
theorem Apart.isNew_give {flag other : Flag} {arguments : Arguments} (h : flag.Apart other)
    (hnew : other.IsNew arguments) : other.IsNew (flag.give arguments) := by
  rcases h with hne | ⟨rfl, rfl⟩
  · cases flag <;> cases other <;>
      simp_all [option, IsNew, give, Arguments.isGiven]
  · exact hnew

/-- A flag for one option gives no other option a value. -/
theorem isGiven_give {flag : Flag} {option : ValueOption} (h : flag.option ≠ .value option)
    (arguments : Arguments) :
    (flag.give arguments).isGiven option = arguments.isGiven option := by
  cases flag <;> cases option <;> first | rfl | exact absurd rfl h

theorem isGiven_foldl_give {flags : List Flag} {option : ValueOption}
    (h : ∀ flag ∈ flags, flag.option ≠ .value option) (arguments : Arguments) :
    (flags.foldl give arguments).isGiven option = arguments.isGiven option := by
  induction flags generalizing arguments with
  | nil => rfl
  | cons flag flags ih =>
    obtain ⟨hflag, hflags⟩ := List.forall_mem_cons.mp h
    rw [List.foldl_cons, ih hflags, isGiven_give hflag]

/-- The order of two flags does not matter to what they give. -/
theorem Apart.give_give {flag other : Flag} (h : flag.Apart other) (arguments : Arguments) :
    other.give (flag.give arguments) = flag.give (other.give arguments) := by
  rcases h with hne | ⟨rfl, rfl⟩
  · cases flag <;> cases other <;> simp_all [option, give]
  · rfl

/-- The order of flags that can stand beside each other does not matter to what they give. -/
theorem foldl_give_perm {flags order : List Flag} (hapart : order.Pairwise Apart)
    (horder : order.Perm flags) (arguments : Arguments) :
    order.foldl give arguments = flags.foldl give arguments := by
  have hcommute : ∀ flag ∈ order, ∀ other ∈ order, ∀ arguments,
      other.give (flag.give arguments) = flag.give (other.give arguments) := by
    intro flag hflag other hother
    have hpairs := hapart.imp fun h => h.give_give
    exact hpairs.forall_of_forall_of_flip (fun _ _ _ => rfl)
      (hpairs.imp fun h arguments => (h arguments).symm) hflag hother
  exact horder.foldl_eq' hcommute arguments

end Flag

/-- The word can be the value of an option that waits for one. -/
def ValueOption.Takes (option : ValueOption) (word : String) : Prop :=
  word.toList.head? ≠ some '-' ∨
    option.takesNumber ∧ ∃ digits, word.toList = '-' :: digits ∧ digits ≠ [] ∧
      ∀ d ∈ digits, d.isDigit

namespace ArgumentScan

/-- A scan stands between two flags, and what it has read are these values. -/
structure Holds (scan : ArgumentScan) (arguments : Arguments) : Prop where
  settles : scan.settle = .ok arguments
  goesOn : scan.optionsEnded = false

variable {scan : ArgumentScan} {arguments given : Arguments} {option : ValueOption} {word : String}
  {letter : Char}

/-! ## One word -/

theorem Holds.awaitsNumber_eq (h : scan.Holds arguments) : scan.awaitsNumber = false := by
  obtain ⟨settled, _ | ⟨option, _ | text⟩, ended⟩ := scan
  · rfl
  · exact absurd h.settles nofun
  · rfl

theorem Holds.settleOrStop_eq (h : scan.Holds arguments) : scan.settleOrStop = .ok arguments := by
  rw [settleOrStop, h.settles, mapError_ok]

/-- A word that begins with no mark is a value. -/
theorem step_eq_supply (hended : scan.optionsEnded = false) (h : word.toList.head? ≠ some '-') :
    scan.step word = scan.supply word := by
  unfold step
  rw [if_neg (by simp [hended])]
  split
  · next heq => exact absurd (by rw [heq]; rfl) h
  · next heq => exact absurd (by rw [heq]; rfl) h
  · next heq => exact absurd (by rw [heq]; rfl) h
  · rfl

theorem isNumberLike_of_isDigit {digits : List Char} (hne : digits ≠ [])
    (hdigits : ∀ d ∈ digits, d.isDigit) : isNumberLike digits := by
  have hdrop : digits.dropWhile Char.isDigit = [] := by
    simpa using @List.dropWhile_append_of_pos _ _ digits [] hdigits
  obtain ⟨d, rest, rfl⟩ := List.exists_cons_of_ne_nil hne
  have hd := hdigits d List.mem_cons_self
  simp [isNumberLike, hdrop, hd]

/-- An option that waits for its value takes the next word, if that can be one. -/
theorem step_of_takes (h : option.Takes word) :
    step { settled := arguments, pending := some ⟨option, none⟩ } word =
      .ok { settled := arguments, pending := some ⟨option, some word⟩ } := by
  rcases h with hhead | ⟨hnumber, digits, hword, hne, hdigits⟩
  · exact step_eq_supply rfl hhead
  · obtain ⟨d, rest, rfl⟩ := List.exists_cons_of_ne_nil hne
    have hlike := isNumberLike_of_isDigit hne hdigits
    have hd : d ≠ '-' := by
      rintro rfl
      exact absurd (hdigits _ List.mem_cons_self) (by decide)
    simp [step, hword, hd, awaitsNumber, hnumber, hlike, supply]

/-- The letter of an option with a value opens this option. -/
theorem Holds.step_letter (h : scan.Holds arguments)
    (hletter : OptionName.ofLetter? letter = some (.value option)) :
    scan.step (String.ofList ['-', letter]) =
      .ok { settled := arguments, pending := some ⟨option, none⟩ } := by
  have hne : letter ≠ '-' := by
    rintro rfl
    contradiction
  have hmeet : scan.step (String.ofList ['-', letter]) = scan.meet option none := by
    simp [step, h.goesOn, hne, h.awaitsNumber_eq, readLetters, hletter, attachedValue]
  rw [hmeet, meet, h.settleOrStop_eq]
  rfl

/-- The value behind the letter of its option waits to be stored. -/
theorem Holds.foldlM_value (h : scan.Holds arguments)
    (hletter : OptionName.ofLetter? letter = some (.value option)) (htakes : option.Takes word) :
    [String.ofList ['-', letter], word].foldlM step scan =
      .ok { settled := arguments, pending := some ⟨option, some word⟩ } := by
  simp only [List.foldlM_cons, List.foldlM_nil, h.step_letter hletter, step_of_takes htakes,
    ok_bind]
  rfl

/-- A value is stored unless its option has one already. -/
theorem settle_of_isGiven_eq_false (hnew : arguments.isGiven option = false) (word : String) :
    settle { settled := arguments, pending := some ⟨option, some word⟩ } =
      arguments.assign option word := by
  change arguments.store option word = _
  rw [Arguments.store, hnew]
  rfl

/-- The letter of an option and its value are read together. -/
theorem Holds.read_value (h : scan.Holds arguments)
    (hletter : OptionName.ofLetter? letter = some (.value option)) (htakes : option.Takes word)
    (hnew : arguments.isGiven option = false) (hvalue : arguments.assign option word = .ok given) :
    ∃ next, [String.ofList ['-', letter], word].foldlM step scan = .ok next ∧ next.Holds given :=
  ⟨_, h.foldlM_value hletter htakes, (settle_of_isGiven_eq_false hnew word).trans hvalue, rfl⟩

theorem Holds.step_verbose (h : scan.Holds arguments) :
    scan.step "-v" = scan.meetSwitch .verbose := by
  simp only [step, h.goesOn, h.awaitsNumber_eq]
  change scan.readLetters ['v'] = _
  rw [readLetters]
  cases hswitch : scan.meetSwitch .verbose <;> simp [OptionName.ofLetter?, hswitch, readLetters]

theorem Holds.step_showConfig (h : scan.Holds arguments) :
    scan.step "--show-config" = scan.meetSwitch .showConfig := by
  unfold step
  rw [if_neg (by simp [h.goesOn])]
  rfl

/-- A switch is carried out at once. -/
theorem Holds.read_switch (h : scan.Holds arguments) {switch : Switch}
    (hstep : scan.step word = scan.meetSwitch switch)
    (happly : arguments.apply switch = .ok given) :
    ∃ next, [word].foldlM step scan = .ok next ∧ next.Holds given := by
  refine ⟨{ settled := given }, ?_, rfl, rfl⟩
  rw [List.foldlM_cons, hstep, meetSwitch, h.settleOrStop_eq, ok_bind, happly]
  rfl

/-! ## Flags -/

theorem takes_repr (h : option.takesNumber) (number : Int) : option.Takes number.repr := by
  rw [ValueOption.Takes, Int.repr_eq_if]
  split
  · left
    obtain ⟨d, digits, hdigits, hd⟩ := exists_toDigits_eq_cons number.toNat
    rw [Nat.toList_repr, hdigits]
    rintro ⟨⟩
    exact absurd hd (by decide)
  · refine .inr ⟨h, Nat.toDigits 10 (-number).toNat, ?_, Nat.toDigits_ne_nil,
      forall_isDigit_toDigits _⟩
    rw [String.toList_append, Nat.toList_repr]
    rfl

/-- Numerals with commas between them begin with a digit. -/
theorem takes_numerals {bytes : List UInt8} (hne : bytes ≠ [])
    (h : word.toList = [','].intercalate (bytes.map fun byte => Nat.toDigits 10 byte.toNat)) :
    option.Takes word := by
  left
  obtain ⟨byte, bytes, rfl⟩ := List.exists_cons_of_ne_nil hne
  obtain ⟨d, digits, hdigits, hd⟩ := exists_toDigits_eq_cons byte.toNat
  have htext := intercalate_append_cons [] (bytes.map fun byte => Nat.toDigits 10 byte.toNat)
    (d :: digits)
  rw [List.nil_append] at htext
  rw [h, List.map_cons, hdigits, htext]
  rintro ⟨⟩
  exact absurd hd (by decide)

theorem takes_render (list : TimerList) : option.Takes list.render :=
  takes_numerals (List.ne_nil_of_length_eq_add_one list.length_toList) list.toList_render

/-- Between two flags a scan reads a flag that is new, and holds what it gives. -/
theorem Holds.read_flag {flag : Flag} (h : scan.Holds arguments) (hlegible : flag.Legible)
    (hnew : flag.IsNew arguments) :
    ∃ next, flag.words.foldlM step scan = .ok next ∧ next.Holds (flag.give arguments) := by
  cases flag with
  | device text => exact h.read_value rfl (.inl hlegible) hnew rfl
  | command text => exact h.read_value rfl (.inl hlegible) hnew rfl
  | unit number =>
    refine h.read_value rfl (takes_repr rfl number) hnew ?_
    simp only [Arguments.assign, readInt64_repr hlegible.1 hlegible.2]
    rfl
  | zone number =>
    refine h.read_value rfl (takes_repr rfl number) hnew ?_
    simp only [Arguments.assign, readInt64_repr hlegible.1 hlegible.2]
    rfl
  | timers list =>
    refine h.read_value rfl (takes_render list) hnew ?_
    simp only [Arguments.assign, list.parse_render]
    rfl
  | verbose =>
    have happly : arguments.apply .verbose = .ok (Flag.give arguments .verbose) := rfl
    exact h.read_switch h.step_verbose happly
  | showConfig =>
    have happly : arguments.apply .showConfig = .ok (Flag.give arguments .showConfig) :=
      if_neg (Bool.not_eq_true _ ▸ hnew)
    exact h.read_switch h.step_showConfig happly

/-- A scan reads flags one after the other if each is new and none is for the option of another. -/
theorem Holds.read_flags {flags : List Flag} (h : scan.Holds arguments)
    (hlegible : ∀ flag ∈ flags, flag.Legible) (hnew : ∀ flag ∈ flags, flag.IsNew arguments)
    (hapart : flags.Pairwise Flag.Apart) :
    ∃ last, (flags.flatMap Flag.words).foldlM step scan = .ok last ∧
      last.Holds (flags.foldl Flag.give arguments) := by
  induction flags generalizing scan arguments with
  | nil => exact ⟨scan, rfl, h⟩
  | cons flag flags ih =>
    obtain ⟨hflag, hlegible⟩ := List.forall_mem_cons.mp hlegible
    obtain ⟨hfirst, hnew⟩ := List.forall_mem_cons.mp hnew
    obtain ⟨hothers, hapart⟩ := List.pairwise_cons.mp hapart
    obtain ⟨next, hread, hnext⟩ := h.read_flag hflag hfirst
    obtain ⟨last, hrest, hlast⟩ := ih hnext hlegible
      (fun other hother => (hothers other hother).isNew_give (hnew other hother)) hapart
    refine ⟨last, ?_, hlast⟩
    rw [List.flatMap_cons, List.foldlM_append, hread, ok_bind, hrest]

/-- Behind flags for other options a word is read as the value of its option, or refused as such. -/
theorem parse_flags_append_value {flags : List Flag} (hlegible : ∀ flag ∈ flags, flag.Legible)
    (hapart : flags.Pairwise Flag.Apart) (hother : ∀ flag ∈ flags, flag.option ≠ .value option)
    (hletter : OptionName.ofLetter? letter = some (.value option)) (htakes : option.Takes word) :
    Arguments.parse (flags.flatMap Flag.words ++ [String.ofList ['-', letter], word]) =
      ((flags.foldl Flag.give {}).assign option word).mapError .refused := by
  have hstart : Holds {} {} := ⟨rfl, rfl⟩
  obtain ⟨last, hread, hlast⟩ := hstart.read_flags hlegible
    (fun flag _ => by cases flag <;> trivial) hapart
  have hnew : (flags.foldl Flag.give {}).isGiven option = false := by
    rw [Flag.isGiven_foldl_give hother]
    cases option <;> rfl
  rw [Arguments.parse, List.foldlM_append, hread, ok_bind, hlast.foldlM_value hletter htakes,
    ok_bind, settleOrStop, settle_of_isGiven_eq_false hnew]

end ArgumentScan

/-! ## Selections -/

/-- What can be chosen: a value for each option, and diagnostics any number of times. -/
structure Selection where
  device : Option String := none
  command : Option String := none
  unit : Option Int := none
  zone : Option Int := none
  timers : Option TimerList := none
  verbose : Nat := 0
  showConfig : Bool := false
  deriving Repr, DecidableEq

namespace Selection

/-- The flags for a selection. -/
def flags (selection : Selection) : List Flag :=
  selection.device.toList.map .device ++ selection.command.toList.map .command ++
    selection.unit.toList.map .unit ++ selection.zone.toList.map .zone ++
    selection.timers.toList.map .timers ++ List.replicate selection.verbose .verbose ++
    if selection.showConfig then [.showConfig] else []

/-- The values that a selection comes to. -/
def arguments (selection : Selection) : Arguments where
  device := selection.device
  command := selection.command
  unit := selection.unit
  zone := selection.zone
  timers := selection.timers
  verbosity := min selection.verbose Arguments.maxVerbosity
  showConfig := selection.showConfig

theorem pairwise_apart_flags (selection : Selection) : selection.flags.Pairwise Flag.Apart := by
  have hsingle : ∀ {α : Type} (value : Option α) (flag : α → Flag),
      (value.toList.map flag).Pairwise Flag.Apart := by
    intro α value flag
    cases value <;> simp
  have hshow : (if selection.showConfig then [Flag.showConfig] else []).Pairwise Flag.Apart := by
    split <;> simp
  simp only [flags, List.pairwise_append, hsingle, hshow, true_and]
  simp [Flag.Apart, Flag.option, List.mem_replicate, or_imp, forall_and, List.pairwise_replicate]

/-- The flag for diagnostics, typed any number of times, gives that many requests. -/
theorem foldl_give_replicate (count : Nat) {arguments : Arguments}
    (h : arguments.verbosity ≤ Arguments.maxVerbosity) :
    (List.replicate count Flag.verbose).foldl Flag.give arguments = arguments.louder count := by
  induction count generalizing arguments with
  | zero => exact (Arguments.louder_zero h).symm
  | succ count ih =>
    have hfirst : Flag.verbose.give arguments = arguments.louder 1 := rfl
    rw [List.replicate_succ, List.foldl_cons, hfirst, ih (Nat.min_le_right _ _),
      Arguments.louder_louder, Nat.add_comm]

/-- The flags of a selection give its values, one option after the other. -/
theorem foldl_give_flags (selection : Selection) :
    selection.flags.foldl Flag.give {} = selection.arguments := by
  obtain ⟨device, command, unit, zone, timers, verbose, showConfig⟩ := selection
  have hdevice : (device.toList.map Flag.device).foldl Flag.give {} = { device } := by
    cases device <;> rfl
  have hcommand : (command.toList.map Flag.command).foldl Flag.give { device } =
      { device, command } := by
    cases command <;> rfl
  have hunit : (unit.toList.map Flag.unit).foldl Flag.give { device, command } =
      { device, command, unit } := by
    cases unit <;> rfl
  have hzone : (zone.toList.map Flag.zone).foldl Flag.give { device, command, unit } =
      { device, command, unit, zone } := by
    cases zone <;> rfl
  have htimers : (timers.toList.map Flag.timers).foldl Flag.give
      { device, command, unit, zone } = { device, command, unit, zone, timers } := by
    cases timers <;> rfl
  have hverbose : (List.replicate verbose Flag.verbose).foldl Flag.give
      { device, command, unit, zone, timers } =
        { device, command, unit, zone, timers
          verbosity := min verbose Arguments.maxVerbosity } := by
    rw [foldl_give_replicate verbose (Nat.zero_le _), Arguments.louder, Nat.zero_add]
  simp only [flags, List.foldl_append, hdevice, hcommand, hunit, hzone, htimers, hverbose]
  cases showConfig <;> rfl

end Selection

/-- **Flags give what was chosen, in any order.** Take any selection in which the texts for the
device and the command do not begin with the mark of a flag and the numbers fit 64 bits, and any
order of its flags.

The words of the flags are read, and the options are those that were chosen: the device is that of
the settings if none was, and diagnostics are wanted exactly if their flag was given at all. It
counts up to 255 times. -/
theorem flags_read_in_any_order {selection : Selection} {order : List Flag}
    (hlegible : ∀ flag ∈ selection.flags, flag.Legible) (horder : order.Perm selection.flags)
    (settings : Settings) :
    ∃ arguments, Arguments.parse (order.flatMap Flag.words) = .ok arguments ∧
      arguments.options settings =
        { device := selection.device.getD settings.device
          command := selection.command
          unit := selection.unit
          zone := selection.zone
          timers := selection.timers
          verbose := 0 < selection.verbose } ∧
      arguments.verbosity = min selection.verbose 255 ∧
      arguments.showConfig = selection.showConfig ∧ arguments.completions = none := by
  have hapart : order.Pairwise Flag.Apart :=
    (horder.pairwise_iff Flag.Apart.symm).mpr selection.pairwise_apart_flags
  have hnew : ∀ flag ∈ order, flag.IsNew {} := fun flag _ => by cases flag <;> trivial
  have hstart : ArgumentScan.Holds {} {} := ⟨rfl, rfl⟩
  obtain ⟨last, hread, hlast⟩ := hstart.read_flags
    (fun flag hflag => hlegible flag (horder.mem_iff.mp hflag)) hnew hapart
  have hgive : order.foldl Flag.give {} = selection.arguments := by
    rw [Flag.foldl_give_perm hapart horder, selection.foldl_give_flags]
  rw [hgive] at hlast
  refine ⟨selection.arguments, ?_, ?_, rfl, rfl, rfl⟩
  · rw [Arguments.parse, hread, ok_bind, hlast.settleOrStop_eq]
  · have hverbose : 0 < min selection.verbose Arguments.maxVerbosity ↔ 0 < selection.verbose := by
      rw [Nat.lt_min]
      exact and_iff_left (by decide)
    simp only [Arguments.options, Selection.arguments, hverbose]

/-- Both ends of the range of numbers, a text that begins with an equals sign, and in front of all
this the flag for diagnostics once more than it counts. -/
theorem flags_read_in_any_order_extremes :
    let selection : Selection :=
      { device := some "=$HOME/tty", unit := some (-2 ^ 63), zone := some (2 ^ 63 - 1)
        verbose := 256 }
    let order : List Flag :=
      List.replicate 256 .verbose ++
        [.zone 9223372036854775807, .unit (-9223372036854775808), .device "=$HOME/tty"]
    (∀ flag ∈ selection.flags, flag.Legible) ∧ order.Perm selection.flags ∧
    ∃ arguments, Arguments.parse (order.flatMap Flag.words) = .ok arguments ∧
      arguments.options .default =
        ⟨"=$HOME/tty", none, some (-9223372036854775808), some 9223372036854775807, none, true⟩ ∧
      arguments.verbosity = 255 := by
  intro selection order
  have hflags : selection.flags =
      [.device "=$HOME/tty", .unit (-9223372036854775808), .zone 9223372036854775807] ++
        List.replicate 256 .verbose := List.append_nil _
  have hlegible : ∀ flag ∈ selection.flags, flag.Legible := by
    rw [hflags]
    refine List.forall_mem_append.mpr ⟨?_, fun flag hflag => ?_⟩
    · simp only [List.forall_mem_cons, Flag.Legible]
      exact ⟨by decide, by decide, by decide, List.forall_mem_nil _⟩
    · rw [List.eq_of_mem_replicate hflag]
      trivial
  have horder : order.Perm selection.flags := by
    rw [hflags]
    exact List.perm_append_comm.trans ((by decide : List.Perm _ _).append_right _)
  obtain ⟨arguments, hparse, hoptions, hverbosity, -⟩ :=
    flags_read_in_any_order hlegible horder .default
  exact ⟨hlegible, horder, arguments, hparse, hoptions, hverbosity⟩

end Irrigation
