import Irrigation.Proofs.Paths.Parts
import Mathlib.Data.List.Forall2

/-!
# The expansion of a path

* `PathPart.Stands`: the text that a part of a path stands for.
* `RefersTo`, `Expands`: the references of a path, and the rules by which it is expanded.
  `expandPath_eq_iff`: this is how it is expanded. `Expands.congr`: of the variables the rules ask
  for nothing but `HOME` and those that the path refers to.
* `expandPath_eq_self`: a path without references stands for itself.
* `path_expansion`: a path is expanded as a whole or not at all, and by the variables that it names
  only.
-/

namespace Irrigation

open PathPart

variable {environment : Environment} {account : Option String}

/-! ## Parts -/

/-- The text that a part stands for: that of the part, the value of the variable, or what to fall
back on where the variable is not set. -/
inductive PathPart.Stands (environment : Environment) : PathPart → List Char → Prop
  | text (chars : List Char) : Stands environment (text chars) chars
  | value {name value : String} {fallback : Option String} :
    environment.get? name = some value → Stands environment (reference name fallback) value.toList
  | fallback {name fallback : String} :
    environment.get? name = none →
    Stands environment (reference name (some fallback)) fallback.toList

namespace PathPart

theorem stands_iff {part : PathPart} {chars : List Char} :
    Stands environment part chars ↔ part.value? environment = some chars := by
  constructor
  · rintro (_ | hset | hunset)
    · rfl
    · simp [value?, hset]
    · simp [value?, hunset]
  · intro h
    cases part with
    | text given =>
      obtain rfl := Option.some.inj h
      exact .text given
    | reference name fallback =>
      obtain ⟨value, hvalue, rfl⟩ := Option.map_eq_some_iff.mp h
      obtain hset | ⟨hunset, rfl⟩ := Option.or_eq_some_iff.mp hvalue
      · exact .value hset
      · exact .fallback hunset

/-- A part stands for no text if it refers to a variable that is not set, without anything to fall
back on. -/
theorem value?_eq_none_iff {part : PathPart} :
    part.value? environment = none ↔
      ∃ name, part = reference name none ∧ environment.get? name = none := by
  cases part with
  | text chars => simp [value?]
  | reference name fallback => cases fallback <;> simp [value?]

theorem mapM_value?_eq_some_iff {parts : List PathPart} {values : List (List Char)} :
    parts.mapM (value? environment) = some values ↔
      List.Forall₂ (Stands environment) parts values := by
  induction parts generalizing values with
  | nil => cases values <;> simp
  | cons part parts ih =>
    simp only [List.mapM_cons, Option.bind_eq_bind, Option.bind_eq_some_iff, Option.pure_def,
      Option.some.injEq, List.forall₂_cons_left_iff, stands_iff, ih]
    constructor
    · rintro ⟨chars, hpart, others, hparts, rfl⟩
      exact ⟨chars, others, hpart, hparts, rfl⟩
    · rintro ⟨chars, others, hpart, hparts, rfl⟩
      exact ⟨chars, hpart, others, hparts, rfl⟩

theorem mapM_value?_eq_none_iff {parts : List PathPart} :
    parts.mapM (value? environment) = none ↔
      ∃ name, reference name none ∈ parts ∧ environment.get? name = none := by
  have hpart : parts.mapM (value? environment) = none ↔
      ∃ part ∈ parts, part.value? environment = none := by
    induction parts with
    | nil => simp
    | cons part parts ih =>
      rw [List.mapM_cons, List.exists_mem_cons_iff, ← ih]
      cases part.value? environment <;> cases parts.mapM (value? environment) <;> simp
  simp only [hpart, value?_eq_none_iff]
  constructor
  · rintro ⟨_, hmem, name, rfl, hunset⟩
    exact ⟨name, hmem, hunset⟩
  · rintro ⟨name, hmem, hunset⟩
    exact ⟨_, hmem, name, rfl, hunset⟩

/-- Parts stand for the same texts where the variables that they refer to are the same. -/
theorem forall₂_stands_congr {other : Environment} {parts : List PathPart}
    {values : List (List Char)} (h : List.Forall₂ (Stands environment) parts values)
    (hsame : ∀ name fallback, reference name fallback ∈ parts →
      environment.get? name = other.get? name) :
    List.Forall₂ (Stands other) parts values := by
  induction h with
  | nil => exact .nil
  | cons hpart _ ih =>
    refine .cons ?_ (ih fun name fallback hmem => hsame name fallback (List.mem_cons_of_mem _ hmem))
    cases hpart with
    | text => exact .text _
    | value hset => exact .value (hsame _ _ List.mem_cons_self ▸ hset)
    | fallback hunset => exact .fallback (hsame _ _ List.mem_cons_self ▸ hunset)

/-- What begins with the text `~` is cut from a path that begins so. -/
theorem cut_tilde_iff {path : List Char} {parts : List PathPart} :
    Cut path (text ['~'] :: parts) ↔ ∃ rest, path = '~' :: rest ∧ Cut rest parts := by
  constructor
  · rintro (_ | ⟨_, hrest⟩)
    exact ⟨_, rfl, hrest⟩
  · rintro ⟨rest, rfl, hrest⟩
    exact .plain (by decide) hrest

end PathPart

/-! ## Rules -/

/-- The path refers to this variable, with this text to fall back on if there is one. -/
def RefersTo (path name : String) (fallback : Option String) : Prop :=
  ∃ parts, Cut path.toList parts ∧ reference name fallback ∈ parts

/-- The rules by which a path is expanded, with the home directory on record for the account. -/
inductive Expands (environment : Environment) (account : Option String) (path : String) :
    String → Prop
  /-- One reference to a variable that is not set, with nothing to fall back on, leaves the path as
  it is. -/
  | missing {name : String} :
    RefersTo path name none → environment.get? name = none →
    Expands environment account path path
  /-- Otherwise each part gives way to the text that it stands for. -/
  | filled {parts : List PathPart} {values : List (List Char)} :
    Cut path.toList parts → List.Forall₂ (Stands environment) parts values →
    path.toList.head? ≠ some '~' →
    Expands environment account path (String.ofList values.flatten)
  /-- A `~` that the path begins with gives way to the home directory, if nothing or a slash comes
  behind it in the end. -/
  | atHome {parts : List PathPart} {values : List (List Char)} {home : String} :
    Cut path.toList (text ['~'] :: parts) → List.Forall₂ (Stands environment) parts values →
    environment.home? account = some home → (∀ c, values.flatten.head? = some c → c = '/') →
    Expands environment account path (String.ofList (home.toList ++ values.flatten))
  /-- It stands for itself before anything else, or where there is no home directory. -/
  | tilde {parts : List PathPart} {values : List (List Char)} :
    Cut path.toList (text ['~'] :: parts) → List.Forall₂ (Stands environment) parts values →
    (environment.home? account = none ∨ ∃ c, values.flatten.head? = some c ∧ c ≠ '/') →
    Expands environment account path (String.ofList ('~' :: values.flatten))

/-- Two environments are the same for all that a path asks for. -/
structure Environment.AgreesFor (environment other : Environment) (path : String) : Prop where
  home : environment.get? "HOME" = other.get? "HOME"
  reference : ∀ name fallback, RefersTo path name fallback →
    environment.get? name = other.get? name

variable {path : String}

/-- Of the variables the rules ask for nothing but `HOME` and those that the path refers to. -/
theorem Expands.congr {other : Environment} {result : String}
    (h : Expands environment account path result) (hagree : environment.AgreesFor other path) :
    Expands other account path result := by
  have hhome : environment.home? account = other.home? account := by
    rw [Environment.home?, Environment.home?, hagree.home]
  cases h with
  | missing hrefers hunset => exact .missing hrefers (hagree.reference _ _ hrefers ▸ hunset)
  | @filled parts values hcut hvalues hplain =>
    refine .filled hcut (forall₂_stands_congr hvalues fun name fallback hmem => ?_) hplain
    exact hagree.reference name fallback ⟨parts, hcut, hmem⟩
  | @atHome parts values home hcut hvalues hset hslash =>
    refine .atHome hcut (forall₂_stands_congr hvalues fun name fallback hmem => ?_)
      (hhome ▸ hset) hslash
    exact hagree.reference name fallback ⟨_, hcut, List.mem_cons_of_mem _ hmem⟩
  | @tilde parts values hcut hvalues hkept =>
    refine .tilde hcut (forall₂_stands_congr hvalues fun name fallback hmem => ?_) (hhome ▸ hkept)
    exact hagree.reference name fallback ⟨_, hcut, List.mem_cons_of_mem _ hmem⟩

/-! ## Expansion -/

theorem expandHome_some {home : String} {rest : List Char}
    (h : ∀ c, rest.head? = some c → c = '/') :
    expandHome (some home) ('~' :: rest) = home.toList ++ rest := by
  cases rest with
  | nil => simp [expandHome]
  | cons c rest =>
    obtain rfl := h c rfl
    rfl

theorem expandHome_eq_self {home : Option String} {rest : List Char}
    (h : home = none ∨ ∃ c, rest.head? = some c ∧ c ≠ '/') :
    expandHome home ('~' :: rest) = '~' :: rest := by
  rcases h with rfl | ⟨c, hc, hslash⟩
  · rfl
  · cases rest with
    | nil => cases hc
    | cons d rest =>
      obtain rfl := Option.some.inj hc
      cases home <;> simp [expandHome, hslash]

theorem expandPath_of_missing {name : String} (hrefers : RefersTo path name none)
    (hunset : environment.get? name = none) : expandPath environment path account = path := by
  obtain ⟨parts, hcut, hmem⟩ := hrefers
  have hnone := mapM_value?_eq_none_iff.mpr ⟨name, hmem, hunset⟩
  rw [expandPath, ← cut_iff.mp hcut, hnone]

theorem expandPath_of_stands {parts : List PathPart} {values : List (List Char)}
    (hcut : Cut path.toList parts) (hvalues : List.Forall₂ (Stands environment) parts values) :
    expandPath environment path account =
      String.ofList (if path.toList.head? = some '~' then
        expandHome (environment.home? account) values.flatten else values.flatten) := by
  rw [expandPath, ← cut_iff.mp hcut, mapM_value?_eq_some_iff.mpr hvalues]

/-- With a leading `~` the texts of the other parts decide about the home directory. -/
theorem expandPath_of_tilde {parts : List PathPart} {values : List (List Char)}
    (hcut : Cut path.toList (text ['~'] :: parts))
    (hvalues : List.Forall₂ (Stands environment) parts values) :
    expandPath environment path account =
      String.ofList (expandHome (environment.home? account) ('~' :: values.flatten)) := by
  obtain ⟨rest, hpath, -⟩ := cut_tilde_iff.mp hcut
  rw [expandPath_of_stands hcut (.cons (.text ['~']) hvalues), if_pos (by rw [hpath]; rfl)]
  rfl

theorem Expands.expandPath_eq {result : String} (h : Expands environment account path result) :
    expandPath environment path account = result := by
  cases h with
  | missing hrefers hunset => exact expandPath_of_missing hrefers hunset
  | filled hcut hvalues hplain => rw [expandPath_of_stands hcut hvalues, if_neg hplain]
  | atHome hcut hvalues hset hslash =>
    rw [expandPath_of_tilde hcut hvalues, hset, expandHome_some hslash]
  | tilde hcut hvalues hkept => rw [expandPath_of_tilde hcut hvalues, expandHome_eq_self hkept]

/-- Every path is expanded by one of the rules. -/
theorem exists_expands (environment : Environment) (account : Option String) (path : String) :
    ∃ result, Expands environment account path result := by
  have hcut := cut_parse path.toList
  cases hvalues : (parse path.toList).mapM (value? environment) with
  | none =>
    obtain ⟨name, hmem, hunset⟩ := mapM_value?_eq_none_iff.mp hvalues
    exact ⟨path, .missing ⟨_, hcut, hmem⟩ hunset⟩
  | some values =>
    have hstands := mapM_value?_eq_some_iff.mp hvalues
    by_cases htilde : path.toList.head? = some '~'
    · obtain ⟨rest, hpath⟩ := List.head?_eq_some_iff.mp htilde
      rw [hpath, parse_cons (by decide)] at hcut hstands
      obtain ⟨_, others, _, hothers, rfl⟩ := List.forall₂_cons_left_iff.mp hstands
      rw [← hpath] at hcut
      by_cases hslash : ∀ c, others.flatten.head? = some c → c = '/'
      · cases hhome : environment.home? account with
        | none => exact ⟨_, .tilde hcut hothers (.inl hhome)⟩
        | some home => exact ⟨_, .atHome hcut hothers hhome hslash⟩
      · push Not at hslash
        exact ⟨_, .tilde hcut hothers (.inr hslash)⟩
    · exact ⟨_, .filled hcut hstands htilde⟩

/-- The rules are how a path is expanded. -/
theorem expandPath_eq_iff {result : String} :
    expandPath environment path account = result ↔ Expands environment account path result := by
  refine ⟨?_, Expands.expandPath_eq⟩
  rintro rfl
  obtain ⟨result, h⟩ := exists_expands environment account path
  exact h.expandPath_eq ▸ h

/-! ## Paths without references -/

theorem PathPart.parse_of_not_mem {path : List Char} (h : '$' ∉ path) :
    parse path = path.map fun c => text [c] := by
  induction path with
  | nil => exact parse_nil
  | cons c rest ih =>
    obtain ⟨hc, hrest⟩ := not_or.mp (mt List.mem_cons.mpr h)
    rw [parse_cons (Ne.symm hc), ih hrest, List.map_cons]

/-- A path stands for itself if it holds no `$` and does not begin with `~`. -/
theorem expandPath_eq_self {path : String} (environment : Environment) (account : Option String)
    (hreference : '$' ∉ path.toList) (hhome : path.toList.head? ≠ some '~') :
    expandPath environment path account = path := by
  have hcut : Cut path.toList (path.toList.map fun c => text [c]) :=
    cut_iff.mpr (parse_of_not_mem hreference).symm
  have hvalues : List.Forall₂ (Stands environment) (path.toList.map fun c => text [c])
      (path.toList.map fun c => [c]) := by
    rw [List.forall₂_map_left_iff, List.forall₂_map_right_iff, List.forall₂_same]
    exact fun c _ => .text [c]
  have hflatten : (path.toList.map fun c => [c]).flatten = path.toList :=
    List.flatMap_singleton' _
  rw [expandPath_of_stands hcut hvalues, if_neg hhome, hflatten, String.ofList_toList]

/-! ## What a path asks for -/

/-- **A path is expanded as a whole or not at all, and by what it names only.** Take any path and
any home directory on record for the account, or none.

One reference to a variable that is not set, with no text to fall back on, leaves the whole path as
it is in any environment, whatever its other references and a `~` before them stand for.

A path expands by the rules and in no other way: each reference gives way to its value as it is, so
that no `$` or `~` in a value counts, and only a `~` that the path itself begins with gives way to
the home directory.

Environments with the same `HOME` and the same values for the variables that the path refers to
expand it to the same text. -/
theorem path_expansion (path : String) (account : Option String) :
    (∀ (environment : Environment) (name : String),
      RefersTo path name none → environment.get? name = none →
      expandPath environment path account = path) ∧
    (∀ (environment : Environment) (result : String),
      expandPath environment path account = result ↔ Expands environment account path result) ∧
    ∀ environment other : Environment, environment.AgreesFor other path →
      expandPath environment path account = expandPath other path account := by
  refine ⟨fun _ _ => expandPath_of_missing, fun _ _ => expandPath_eq_iff, ?_⟩
  intro environment other hagree
  have hexpands : Expands environment account path (expandPath environment path account) :=
    expandPath_eq_iff.mp rfl
  exact (hexpands.congr hagree).expandPath_eq.symm

/-- The variable that is not set stands behind one that is. A variable that is not named changes
nothing, and neither does a value that looks like a reference. -/
theorem path_expansion_several_references :
    let path := "~/${B}/${C:-x}/$A"
    let given : Environment := [("HOME", "/root"), ("B", "~$A")]
    let full : Environment := ("A", "${C}") :: given
    expandPath given path = path ∧
      expandPath full path = "/root/~$A/x/${C}" ∧
      expandPath (("TERM", "dumb") :: full) path = "/root/~$A/x/${C}" := by
  intro path given full
  have hparse : parse path.toList =
      [text ['~'], text ['/'], reference "B" none, text ['/'], reference "C" (some "x"),
        text ['/'], reference "A" none] := by decide +kernel
  obtain ⟨hmissing, -, hsame⟩ := path_expansion path none
  have hrefers : RefersTo path "A" none := ⟨_, cut_parse _, by rw [hparse]; decide⟩
  have hfull : expandPath full path = "/root/~$A/x/${C}" := by decide +kernel
  have hagree : full.AgreesFor (("TERM", "dumb") :: full) path := by
    refine ⟨by decide +kernel, fun name fallback ⟨parts, hcut, hmem⟩ => ?_⟩
    rw [cut_iff.mp hcut, hparse] at hmem
    simp only [List.mem_cons, reduceCtorEq, reference.injEq, List.not_mem_nil, false_or, or_false]
      at hmem
    obtain ⟨rfl, -⟩ | ⟨rfl, -⟩ | ⟨rfl, -⟩ := hmem <;> decide +kernel
  refine ⟨hmissing given "A" hrefers (by decide +kernel), hfull, ?_⟩
  rw [← hsame full _ hagree, hfull]

/-- Without `HOME` the directory on record stands for the `~`. -/
example : expandPath [("HOME", "")] "~/bus" (some "/root") = "/root/bus" := by decide +kernel

end Irrigation
