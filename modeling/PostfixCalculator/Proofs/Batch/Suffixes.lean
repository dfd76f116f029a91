import PostfixCalculator.Proofs.Batch.Paths
import Mathlib.Logic.Relation

/-!
# Extensions that stand for others

An extension that stands for others is replaced until the last one stands for none. This ends if
none of those others stands for others itself. Then two spellings of which one stands for the other
give every path the same type.
-/
namespace PostfixCalculator.Batch

open Relation (ReflTransGen TransGen)

/-- What is looked up for an extension. -/
def key (extension : List Char) : String := String.ofList (Text.toLower extension)

/-- What follows the last dot, with that dot. -/
def lastExtension (path : List Char) : List Char :=
  '.' :: (path.reverse.takeWhile (· != '.')).reverse

lemma lastExtension_append {stem extension : List Char} (h : '.' ∉ extension) :
    lastExtension (stem ++ '.' :: extension) = '.' :: extension := by
  have hrun : ∀ c ∈ extension.reverse, (c != '.') = true := fun c hc =>
    bne_iff_ne.2 (ne_of_mem_of_not_mem (List.mem_reverse.1 hc) h)
  unfold lastExtension
  rw [List.reverse_append, List.reverse_cons, List.append_assoc,
    List.takeWhile_append_of_pos hrun]
  simp

/-- No extension that others stand for stands for others itself. -/
structure Settled (suffixes : List (String × String)) : Prop where
  plain : suffixes.lookup (key []) = none
  entries : ∀ entry ∈ suffixes, '.' ∈ entry.2.toList ∧ '/' ∉ entry.2.toList ∧
    suffixes.lookup (key (lastExtension entry.2.toList)) = none

namespace MediaTypes

variable {m : MediaTypes} {path next stem short long : List Char} {extension target : String}

/-- The extension of the path stands for others, which replace it. -/
def Rewrites (m : MediaTypes) (path next : List Char) : Prop :=
  ∃ target, m.suffixOf? (key (splitExtension path).2) = some target ∧
    next = (splitExtension path).1 ++ target.toList

/-- An extension stands for others of which the second is the last. -/
def LeadsTo (m : MediaTypes) (extension last : String) : Prop :=
  ∃ target, m.suffixOf? extension = some target ∧ last = key (lastExtension target.toList)

lemma mem_suffixes (h : m.suffixOf? extension = some target) : (extension, target) ∈ m.suffixes := by
  obtain ⟨before, rest, hsuffixes, -⟩ := List.lookup_eq_some_iff.1 h
  rw [hsuffixes]
  exact List.mem_append_right _ List.mem_cons_self

lemma not_rewrites (h : m.suffixOf? (key (splitExtension path).2) = none) :
    ¬ m.Rewrites path next := by
  rintro ⟨target, hlookup, -⟩
  rw [h] at hlookup
  cases hlookup

lemma Rewrites.done (hsettled : Settled m.suffixes) (h : m.Rewrites path next) :
    m.suffixOf? (key (splitExtension next).2) = none := by
  obtain ⟨target, hlookup, rfl⟩ := h
  obtain ⟨hdot, hslash, hlast⟩ := hsettled.entries _ (mem_suffixes hlookup)
  obtain ⟨front, back, htarget, hback⟩ := exists_last_dot hdot
  rw [htarget] at hslash hlast ⊢
  rw [lastExtension_append hback] at hlast
  have hbackSlash : '/' ∉ back := fun hmem =>
    hslash (List.mem_append_right _ (List.mem_cons_of_mem _ hmem))
  rw [← List.append_assoc]
  by_cases hnamed : Named ((splitExtension path).1 ++ front)
  · rwa [splitExtension_of_named hnamed hback hbackSlash]
  · rw [splitExtension_of_not_named hnamed hback hbackSlash]
    exact hsettled.plain

lemma splitResolved_succ (m : MediaTypes) (path : List Char) (limit : ℕ) :
    m.splitResolved path (limit + 1) =
      match m.suffixOf? (key (splitExtension path).2) with
      | some target => m.splitResolved ((splitExtension path).1 ++ target.toList) limit
      | none => splitExtension path := rfl

lemma splitResolved_of_done (h : m.suffixOf? (key (splitExtension path).2) = none) (limit : ℕ) :
    m.splitResolved path limit = splitExtension path := by
  cases limit with
  | zero => rfl
  | succ limit => rw [splitResolved_succ, h]

lemma splitResolved_of_rewrites (h : m.Rewrites path next) (limit : ℕ) :
    m.splitResolved path (limit + 1) = m.splitResolved next limit := by
  obtain ⟨target, hlookup, rfl⟩ := h
  rw [splitResolved_succ, hlookup]

lemma Rewrites.splitResolved (hsettled : Settled m.suffixes) (h : m.Rewrites path next) {limit : ℕ}
    (hlimit : 0 < limit) : m.splitResolved path limit = splitExtension next := by
  obtain ⟨limit, rfl⟩ := Nat.exists_eq_succ_of_ne_zero hlimit.ne'
  rw [splitResolved_of_rewrites h, splitResolved_of_done (h.done hsettled)]

/-- Replacing extensions ends, and within any limit that lets it start. -/
theorem exists_rewritten (hsettled : Settled m.suffixes) (path : List Char) {limit : ℕ}
    (hlimit : 0 < limit) :
    ∃ last, ReflTransGen m.Rewrites path last ∧ (∀ next, ¬ m.Rewrites last next) ∧
      m.splitResolved path limit = splitExtension last := by
  cases hlookup : m.suffixOf? (key (splitExtension path).2) with
  | none =>
    exact ⟨path, .refl, fun next => not_rewrites hlookup, splitResolved_of_done hlookup _⟩
  | some target =>
    have hstep : m.Rewrites path _ := ⟨target, hlookup, rfl⟩
    exact ⟨_, .single hstep, fun next => not_rewrites (hstep.done hsettled),
      hstep.splitResolved hsettled hlimit⟩

theorem wellFounded_rewrites (hsettled : Settled m.suffixes) :
    WellFounded fun next path => m.Rewrites path next := by
  refine ⟨fun path => ⟨path, fun next hstep => ⟨next, fun further hfurther => ?_⟩⟩⟩
  exact absurd hfurther (not_rewrites (hstep.done hsettled))

theorem not_transGen_leadsTo (hsettled : Settled m.suffixes) (extension : String) :
    ¬ TransGen m.LeadsTo extension extension := by
  -- What an extension leads to leads nowhere, so it is not the extension itself.
  intro hcycle
  obtain ⟨last, ⟨target, hlookup, rfl⟩, hback⟩ := TransGen.head'_iff.1 hcycle
  have hdone := (hsettled.entries _ (mem_suffixes hlookup)).2.2
  rcases hback.cases_head with heq | ⟨next, ⟨other, hother, -⟩, -⟩
  · rw [heq] at hdone
    exact Option.some_ne_none _ (hlookup.symm.trans hdone)
  · exact Option.some_ne_none _ (hother.symm.trans hdone)

/-- The type of a path whose extension is split off. -/
def typeOfSplit? (m : MediaTypes) (split : List Char × List Char) : Option String :=
  m.typeOf? (key (if encodingExtensions.contains (String.ofList split.2) then
    (splitExtension split.1).2 else split.2))

lemma typeOfExtension?_eq (m : MediaTypes) (path : List Char) :
    m.typeOfExtension? path = m.typeOfSplit? (m.splitResolved path m.suffixes.length) := rfl

lemma typeOfSplit?_plain (m : MediaTypes) (stem : List Char) :
    m.typeOfSplit? (stem, []) = m.typeOf? (key []) := rfl

lemma typeOfExtension?_append (hsettled : Settled m.suffixes) (hshort : Lettered short)
    (hlong : Lettered long) (hsuffix : m.suffixOf? (key ('.' :: short)) = some target)
    (htarget : target.toList = '.' :: long) :
    m.typeOfExtension? (stem ++ '.' :: short) = m.typeOfExtension? (stem ++ '.' :: long) := by
  rw [typeOfExtension?_eq, typeOfExtension?_eq]
  have hshortDot : '.' ∉ short := hshort.notMem (by decide)
  have hshortSlash : '/' ∉ short := hshort.notMem (by decide)
  have hlongDot : '.' ∉ long := hlong.notMem (by decide)
  have hlongSlash : '/' ∉ long := hlong.notMem (by decide)
  by_cases hnamed : Named stem
  · have hstep : m.Rewrites (stem ++ '.' :: short) (stem ++ '.' :: long) := by
      refine ⟨target, ?_, ?_⟩ <;> rw [splitExtension_of_named hnamed hshortDot hshortSlash]
      · exact hsuffix
      · rw [htarget]
    rw [hstep.splitResolved hsettled (List.length_pos_of_mem (mem_suffixes hsuffix)),
      splitResolved_of_done (hstep.done hsettled)]
  · have hshortSplit := splitExtension_of_not_named hnamed hshortDot hshortSlash
    have hlongSplit := splitExtension_of_not_named hnamed hlongDot hlongSlash
    rw [splitResolved_of_done (by rw [hshortSplit]; exact hsettled.plain), hshortSplit,
      splitResolved_of_done (by rw [hlongSplit]; exact hsettled.plain), hlongSplit,
      typeOfSplit?_plain, typeOfSplit?_plain]

/-- Spellings that agree on every path without a scheme agree on every path. -/
lemma guess?_append (hshort : Lettered short) (hlong : Lettered long)
    (h : ∀ stem, m.typeOfExtension? (stem ++ '.' :: short) =
      m.typeOfExtension? (stem ++ '.' :: long)) :
    m.guess? (stem ++ '.' :: short) = m.guess? (stem ++ '.' :: long) := by
  unfold guess?
  rw [splitScheme?_append_extension hshort, splitScheme?_append_extension hlong]
  cases splitScheme? stem with
  | none => exact h stem
  | some split =>
    dsimp only [Option.map_some]
    rw [statedType?_append_extension hshort, statedType?_append_extension hlong, h]

end MediaTypes

end PostfixCalculator.Batch
