import Irrigation.DevicePath
import Mathlib.Data.List.Infix
import Mathlib.Data.List.TakeWhile

/-!
# The parts of a path

How a path is cut into parts, told by what stands at its beginning and apart from the way in which
it is read.

* `fallbackMark`: what stands between a name in braces and the text to fall back on.
* `PathPart.Cut`: the rules by which a path is cut.
* `PathPart.ofBraces_of_imp`, `PathPart.ofBraces_append`: what stands in braces is a name, or a name
  and a text to fall back on.
* `PathPart.cut_iff`: every path is cut in one way by these rules, and this is how it is read.
-/

namespace Irrigation

/-- What stands between a name in braces and the text to fall back on. -/
def fallbackMark : List Char := [':', '-']

namespace PathPart

/-- The rules by which a path is cut into parts. -/
inductive Cut : List Char → List PathPart → Prop
  | nil : Cut [] []
  /-- Anything but a `$` stands for itself. -/
  | plain {c : Char} {rest : List Char} {parts : List PathPart} :
    c ≠ '$' → Cut rest parts → Cut (c :: rest) (text [c] :: parts)
  /-- Two `$` stand for one. -/
  | escaped {rest : List Char} {parts : List PathPart} :
    Cut rest parts → Cut ('$' :: '$' :: rest) (text ['$'] :: parts)
  /-- A name behind a `$` goes on as long as it can. -/
  | named {name rest : List Char} {parts : List PathPart} :
    name ≠ [] → (∀ c ∈ name, isNameChar c) → (∀ c, rest.head? = some c → ¬isNameChar c) →
    Cut rest parts →
    Cut ('$' :: (name ++ rest)) (reference (String.ofList name) none :: parts)
  /-- A name in braces goes on to the first brace that closes. Where it begins with a mark, this
  belongs to the name. -/
  | inBraces {name rest : List Char} {parts : List PathPart} :
    '\x7d' ∉ name → (fallbackMark <:+: name → fallbackMark <+: name) →
    Cut rest parts →
    Cut ('$' :: '\x7b' :: (name ++ '\x7d' :: rest)) (reference (String.ofList name) none :: parts)
  /-- The first mark in braces, unless they begin with it, ends the name. Behind it stands the text
  to fall back on. -/
  | withFallback {name fallback rest : List Char} {parts : List PathPart} :
    name ≠ [] → ¬fallbackMark <:+: name → '\x7d' ∉ name → '\x7d' ∉ fallback →
    Cut rest parts →
    Cut ('$' :: '\x7b' :: (name ++ fallbackMark ++ fallback ++ '\x7d' :: rest))
      (reference (String.ofList name) (some (String.ofList fallback)) :: parts)
  /-- A brace that nothing closes stands for itself, with the `$` before it. -/
  | unclosed {rest : List Char} {parts : List PathPart} :
    '\x7d' ∉ rest → Cut rest parts → Cut ('$' :: '\x7b' :: rest) (text ['$', '\x7b'] :: parts)
  /-- Any other `$` stands for itself. -/
  | lone {rest : List Char} {parts : List PathPart} :
    (∀ c, rest.head? = some c → c ≠ '$' ∧ c ≠ '\x7b' ∧ ¬isNameChar c) →
    Cut rest parts → Cut ('$' :: rest) (text ['$'] :: parts)

/-! ## Names -/

/-- The table as a list, which is faster to look through than the array. -/
theorem isNameChar_eq_any (c : Char) :
    isNameChar c = ((alphanumericRanges.toList.any fun (first, last) =>
      first ≤ c.toNat && c.toNat ≤ last) || decide (c = '_')) := by
  rw [isNameChar, isAlphanumeric, inRanges, ← Array.any_toList]

/-- Neither a `$` nor a brace goes on with a name. -/
theorem ne_of_isNameChar {c : Char} (h : isNameChar c) : c ≠ '$' ∧ c ≠ '\x7b' := by
  rw [isNameChar_eq_any] at h
  exact ⟨fun heq => absurd (heq ▸ h) (by decide +kernel),
    fun heq => absurd (heq ▸ h) (by decide +kernel)⟩

/-! ## Braces -/

theorem splitFallback_cons {c : Char} {rest : List Char} (h : ¬fallbackMark <+: c :: rest) :
    splitFallback (c :: rest) = (c :: (splitFallback rest).1, (splitFallback rest).2) := by
  rw [splitFallback.eq_def]
  split
  · contradiction
  · next heq =>
    split
    · next => exact absurd (by cases heq; exact ⟨_, rfl⟩) h
    · cases heq
      rfl

/-- Without a mark a text is a name as a whole. -/
theorem splitFallback_of_not_infix {chars : List Char} (h : ¬fallbackMark <:+: chars) :
    splitFallback chars = (chars, none) := by
  induction chars with
  | nil => rfl
  | cons c rest ih =>
    obtain ⟨hfirst, hrest⟩ := not_or.mp (mt List.infix_cons_iff.mpr h)
    rw [splitFallback_cons hfirst, ih hrest]

/-- A mark across the end of a name would be a mark in the name. -/
theorem not_fallbackMark_across {c : Char} {name : List Char} (h : ¬fallbackMark <+: c :: name)
    (fallback : List Char) : ¬fallbackMark <+: c :: (name ++ fallbackMark ++ fallback) := by
  intro hmark
  obtain ⟨rfl, hnext⟩ := List.cons_prefix_cons.mp hmark
  cases name with
  | nil => exact absurd (List.cons_prefix_cons.mp hnext).1 (by decide)
  | cons d name =>
    obtain ⟨rfl, -⟩ := List.cons_prefix_cons.mp hnext
    exact h ⟨name, rfl⟩

/-- The first mark ends the name. -/
theorem splitFallback_append {name : List Char} (h : ¬fallbackMark <:+: name)
    (fallback : List Char) :
    splitFallback (name ++ fallbackMark ++ fallback) = (name, some fallback) := by
  induction name with
  | nil => rfl
  | cons c name ih =>
    obtain ⟨hfirst, hrest⟩ := not_or.mp (mt List.infix_cons_iff.mpr h)
    rw [List.cons_append, List.cons_append,
      splitFallback_cons (not_fallbackMark_across hfirst fallback), ih hrest]

/-- A text with a mark has a first one. -/
theorem exists_of_infix {chars : List Char} (h : fallbackMark <:+: chars) :
    ∃ name fallback, chars = name ++ fallbackMark ++ fallback ∧ ¬fallbackMark <:+: name := by
  induction chars with
  | nil => exact absurd (List.infix_nil.mp h) (List.cons_ne_nil _ _)
  | cons c rest ih =>
    by_cases hfirst : fallbackMark <+: c :: rest
    · obtain ⟨fallback, hfallback⟩ := hfirst
      exact ⟨[], fallback, hfallback.symm, by decide⟩
    · obtain ⟨name, fallback, rfl, hname⟩ := ih ((List.infix_cons_iff.mp h).resolve_left hfirst)
      refine ⟨c :: name, fallback, rfl, fun hmark => ?_⟩
      refine (List.infix_cons_iff.mp hmark).elim (fun hbegin => hfirst ?_) hname
      rw [List.append_assoc]
      exact hbegin.trans (List.prefix_append (c :: name) (fallbackMark ++ fallback))

/-- The text in braces is a name as a whole if it begins with a mark or holds none. -/
theorem ofBraces_of_imp {name : List Char} (h : fallbackMark <:+: name → fallbackMark <+: name) :
    ofBraces name = reference (String.ofList name) none := by
  by_cases hmark : fallbackMark <:+: name
  · obtain ⟨fallback, rfl⟩ := h hmark
    rfl
  · rw [ofBraces, splitFallback_of_not_infix hmark]
    cases name <;> rfl

theorem ofBraces_append {name : List Char} (hempty : name ≠ []) (h : ¬fallbackMark <:+: name)
    (fallback : List Char) :
    ofBraces (name ++ fallbackMark ++ fallback) =
      reference (String.ofList name) (some (String.ofList fallback)) := by
  rw [ofBraces, splitFallback_append h]
  cases name with
  | nil => contradiction
  | cons c name => rfl

/-! ## Reading -/

theorem parse_nil : parse [] = [] := by
  rw [parse.eq_def]

theorem parse_cons {c : Char} (hc : c ≠ '$') (rest : List Char) :
    parse (c :: rest) = text [c] :: parse rest := by
  rw [parse.eq_def]
  simp [hc]

theorem parse_escaped (rest : List Char) :
    parse ('$' :: '$' :: rest) = text ['$'] :: parse rest := by
  rw [parse.eq_def]
  rfl

theorem parse_dollar_brace (rest : List Char) :
    parse ('$' :: '\x7b' :: rest) =
      match rest.dropWhile (· ≠ '\x7d') with
      | [] => text ['$', '\x7b'] :: parse rest
      | _ :: after => ofBraces (rest.takeWhile (· ≠ '\x7d')) :: parse after := by
  rw [parse.eq_def]
  simp only
  split
  · next heq => rw [heq]
  · next heq => rw [heq]

theorem parse_dollar_cons {c : Char} (hdollar : c ≠ '$') (hbrace : c ≠ '\x7b')
    (rest : List Char) :
    parse ('$' :: c :: rest) =
      if isNameChar c then
        reference (String.ofList (c :: rest.takeWhile isNameChar)) none ::
          parse (rest.dropWhile isNameChar)
      else text ['$'] :: parse (c :: rest) := by
  rw [parse.eq_def]
  simp only

theorem parse_braces {inside : List Char} (h : '\x7d' ∉ inside) (rest : List Char) :
    parse ('$' :: '\x7b' :: (inside ++ '\x7d' :: rest)) = ofBraces inside :: parse rest := by
  have hinside : ∀ c ∈ inside, decide (c ≠ '\x7d') := fun c hc =>
    decide_eq_true fun heq => h (heq ▸ hc)
  have htake : (inside ++ '\x7d' :: rest).takeWhile (· ≠ '\x7d') = inside := by
    rw [List.takeWhile_append_of_pos hinside, List.takeWhile_cons_of_neg (by simp),
      List.append_nil]
  have hdrop : (inside ++ '\x7d' :: rest).dropWhile (· ≠ '\x7d') = '\x7d' :: rest := by
    rw [List.dropWhile_append_of_pos hinside, List.dropWhile_cons_of_neg (by simp)]
  rw [parse_dollar_brace, hdrop, htake]

theorem parse_unclosed {rest : List Char} (h : '\x7d' ∉ rest) :
    parse ('$' :: '\x7b' :: rest) = text ['$', '\x7b'] :: parse rest := by
  have hdrop : rest.dropWhile (· ≠ '\x7d') = [] :=
    List.dropWhile_eq_nil_iff.mpr fun c hc => decide_eq_true fun heq => h (heq ▸ hc)
  rw [parse_dollar_brace, hdrop]

theorem parse_named {name rest : List Char} (hempty : name ≠ []) (hname : ∀ c ∈ name, isNameChar c)
    (hrest : ∀ c, rest.head? = some c → ¬isNameChar c) :
    parse ('$' :: (name ++ rest)) = reference (String.ofList name) none :: parse rest := by
  obtain ⟨htake, hdrop⟩ : rest.takeWhile isNameChar = [] ∧ rest.dropWhile isNameChar = rest := by
    cases rest with
    | nil => exact ⟨rfl, rfl⟩
    | cons c rest =>
      exact ⟨List.takeWhile_cons_of_neg (hrest c rfl), List.dropWhile_cons_of_neg (hrest c rfl)⟩
  obtain ⟨c, name, rfl⟩ := List.exists_cons_of_ne_nil hempty
  obtain ⟨hc, hname⟩ := List.forall_mem_cons.mp hname
  obtain ⟨hdollar, hbrace⟩ := ne_of_isNameChar hc
  rw [List.cons_append, parse_dollar_cons hdollar hbrace, if_pos hc,
    List.takeWhile_append_of_pos hname, List.dropWhile_append_of_pos hname, htake, hdrop,
    List.append_nil]

theorem parse_lone {rest : List Char}
    (h : ∀ c, rest.head? = some c → c ≠ '$' ∧ c ≠ '\x7b' ∧ ¬isNameChar c) :
    parse ('$' :: rest) = text ['$'] :: parse rest := by
  cases rest with
  | nil =>
    rw [parse.eq_def]
    rfl
  | cons c rest =>
    obtain ⟨hdollar, hbrace, hname⟩ := h c rfl
    rw [parse_dollar_cons hdollar hbrace, if_neg hname]

/-! ## The rules -/

/-- A path that is cut by the rules is read so. -/
theorem Cut.eq_parse {path : List Char} {parts : List PathPart} (h : Cut path parts) :
    parts = parse path := by
  induction h with
  | nil => exact parse_nil.symm
  | plain hc _ ih => rw [parse_cons hc, ih]
  | escaped _ ih => rw [parse_escaped, ih]
  | named hempty hname hrest _ ih => rw [parse_named hempty hname hrest, ih]
  | inBraces hclosed hmark _ ih => rw [parse_braces hclosed, ofBraces_of_imp hmark, ih]
  | @withFallback name fallback rest _ hempty hmark hname hfallback _ ih =>
    have hclosed : '\x7d' ∉ name ++ fallbackMark ++ fallback := by
      simp [fallbackMark, hname, hfallback]
    rw [parse_braces hclosed, ofBraces_append hempty hmark, ih]
  | unclosed hclosed _ ih => rw [parse_unclosed hclosed, ih]
  | lone hrest _ ih => rw [parse_lone hrest, ih]

/-- One of two rules cuts what stands in braces. -/
theorem Cut.braces {inside rest : List Char} {parts : List PathPart} (h : '\x7d' ∉ inside)
    (hrest : Cut rest parts) :
    Cut ('$' :: '\x7b' :: (inside ++ '\x7d' :: rest)) (ofBraces inside :: parts) := by
  by_cases hmark : fallbackMark <:+: inside → fallbackMark <+: inside
  · rw [ofBraces_of_imp hmark]
    exact .inBraces h hmark hrest
  · obtain ⟨hmark, hbegin⟩ := Classical.not_imp.mp hmark
    obtain ⟨name, fallback, rfl, hname⟩ := exists_of_infix hmark
    have hempty : name ≠ [] := by
      rintro rfl
      exact hbegin (List.prefix_append fallbackMark fallback)
    simp only [List.mem_append, not_or] at h
    rw [ofBraces_append hempty hname]
    exact .withFallback hempty hname h.1.1 h.2 hrest

/-- Every path is read by the rules. -/
theorem cut_parse (path : List Char) : Cut path (parse path) := by
  fun_induction parse path with
  | case1 => exact .nil
  | case2 rest ih => exact .escaped ih
  | case3 rest hdrop ih =>
    refine .unclosed (fun hmem => ?_) ih
    simpa using List.dropWhile_eq_nil_iff.mp hdrop _ hmem
  | case4 rest head after hdrop ih =>
    -- The text in braces ends right before the brace that the scan stops at.
    obtain rfl : head = '\x7d' := by
      have hstop := List.head?_dropWhile_not (· ≠ '\x7d') rest
      rw [hdrop] at hstop
      simpa using hstop
    have hinside : '\x7d' ∉ rest.takeWhile (· ≠ '\x7d') := fun hmem => by
      simpa using List.mem_takeWhile_imp hmem
    have hcut := Cut.braces hinside ih
    rwa [← hdrop, List.takeWhile_append_dropWhile] at hcut
  | case5 c rest hdollar hbrace hc ih =>
    have hrest : ∀ d, (rest.dropWhile isNameChar).head? = some d → ¬isNameChar d := by
      intro d hd
      have hstop := List.head?_dropWhile_not isNameChar rest
      rw [hd] at hstop
      simpa using hstop
    have hname : ∀ d ∈ c :: rest.takeWhile isNameChar, isNameChar d :=
      List.forall_mem_cons.mpr ⟨hc, fun d => List.mem_takeWhile_imp⟩
    have hcut := Cut.named (List.cons_ne_nil _ _) hname hrest ih
    rwa [List.cons_append, List.takeWhile_append_dropWhile] at hcut
  | case6 c rest hdollar hbrace hc ih =>
    refine .lone (fun d hd => ?_) ih
    obtain rfl := Option.some.inj hd
    exact ⟨hdollar, hbrace, hc⟩
  | case7 c rest hescaped hbrace hname ih =>
    by_cases hc : c = '$'
    · subst hc
      cases rest with
      | nil => exact .lone (fun d hd => nomatch hd) ih
      | cons d rest => exact absurd rfl (hname d rest rfl)
    · exact .plain hc ih

/-- **Every path is cut in one way by the rules, and this is how it is read.** -/
theorem cut_iff {path : List Char} {parts : List PathPart} :
    Cut path parts ↔ parts = parse path :=
  ⟨Cut.eq_parse, fun h => h ▸ cut_parse path⟩

end PathPart

end Irrigation
