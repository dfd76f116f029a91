import PostfixCalculator.Proofs.Batch.Persistence
import PostfixCalculator.Proofs.Batch.Suffixes

/-!
# Completing the known extensions

Completing the media types hides none that are known, gives both spellings of an extension the same
file type, and lets no extension lead back to itself.
-/
namespace PostfixCalculator.Batch

open Relation (ReflTransGen TransGen)

lemma settled_standard : ∀ added ∈ [[], [(".yml", ".yaml")], [(".yaml", ".yml")]],
    Settled (added ++ standardSuffixes) := by
  simp only [List.forall_mem_cons, List.not_mem_nil, false_imp_iff, implies_true, and_true]
  exact ⟨⟨by decide +kernel, by decide +kernel⟩, ⟨by decide +kernel, by decide +kernel⟩,
    ⟨by decide +kernel, by decide +kernel⟩⟩

/-- The same file type, or no file type for the same reason. -/
inductive Alike : Except LookupError FileType → Except LookupError FileType → Prop
  | found (fileType : FileType) : Alike (.ok fileType) (.ok fileType)
  | undetermined (path other : String) :
      Alike (.error (.undetermined path)) (.error (.undetermined other))
  | unsupported (type : String) (path other : Option String) :
      Alike (.error (.unsupported type path)) (.error (.unsupported type other))

lemma findFileType_of_guess {registry : Registry} {media : MediaTypes} {path type : String}
    {fileType : FileType} (hguess : media.guess? path.toList = some type)
    (hholder : registry.byMediaType.lookup type = some fileType) :
    findFileType registry media (some path) none = .ok fileType := by
  unfold findFileType
  dsimp only
  rw [hguess]
  dsimp only
  rw [hholder]

lemma findFileType_alike {registry : Registry} {media : MediaTypes} {path other : String}
    (h : media.guess? path.toList = media.guess? other.toList) :
    Alike (findFileType registry media (some path) none)
      (findFileType registry media (some other) none) := by
  unfold findFileType
  dsimp only
  rw [h]
  cases media.guess? other.toList with
  | none => exact .undetermined path other
  | some type =>
    dsimp only
    cases registry.byMediaType.lookup type with
    | none => exact .unsupported type path other
    | some fileType => exact .found fileType

namespace MediaTypes

variable {m : MediaTypes} {path stem : List Char} {extension target : String}

/-- Gives an extension a type unless it has one. -/
def withType (m : MediaTypes) (known type : String) : MediaTypes :=
  if (m.typeOf? known).isSome then m else m.addType known type

/-- Makes the unknown spelling stand for the known one. -/
def withSpellings (m : MediaTypes) : MediaTypes :=
  match m.typeOf? ".yml", m.typeOf? ".yaml" with
  | none, none => (m.addType ".yml" "application/x-yaml").addSuffix ".yaml" ".yml"
  | none, some _ => m.addSuffix ".yml" ".yaml"
  | some _, none => m.addSuffix ".yaml" ".yml"
  | some _, some _ => m

lemma complete_eq (m : MediaTypes) :
    m.complete = m.withSpellings.withType ".json5" "application/json5" := by
  unfold complete withSpellings
  cases m.typeOf? ".yml" <;> cases m.typeOf? ".yaml" <;> rfl

/-- What completing adds to the extensions that stand for others. -/
def addedSuffixes (m : MediaTypes) : List (String × String) :=
  match m.typeOf? ".yml", m.typeOf? ".yaml" with
  | some _, some _ => []
  | none, some _ => [(".yml", ".yaml")]
  | _, none => [(".yaml", ".yml")]

/-- The types of the extensions that completing makes known. -/
def addedType? (m : MediaTypes) (extension : String) : Option String :=
  if extension = ".yml" ∧ m.typeOf? ".yaml" = none then some "application/x-yaml"
  else if extension = ".json5" then some "application/json5"
  else none

lemma typeOf?_addType (m : MediaTypes) (known type : String) :
    (m.addType known type).typeOf? extension =
      if extension = known then some type else m.typeOf? extension := by
  unfold addType typeOf?
  rw [List.lookup_cons]
  by_cases h : extension = known
  · simp [h]
  · simp [h, beq_false_of_ne h]

lemma typeOf?_withType (m : MediaTypes) (known type : String) :
    (m.withType known type).typeOf? extension =
      (m.typeOf? extension).or (if extension = known then some type else none) := by
  unfold withType
  by_cases h : extension = known
  · subst h
    cases hknown : m.typeOf? extension with
    | some first => simp [hknown]
    | none => simp [typeOf?_addType]
  · rw [if_neg h, Option.or_none]
    split
    · rfl
    · rw [typeOf?_addType, if_neg h]

lemma suffixes_withType (m : MediaTypes) (known type : String) :
    (m.withType known type).suffixes = m.suffixes := by
  unfold withType
  split <;> rfl

lemma suffixes_complete (m : MediaTypes) : m.complete.suffixes = m.addedSuffixes ++ m.suffixes := by
  rw [complete_eq, suffixes_withType]
  unfold withSpellings addedSuffixes
  cases m.typeOf? ".yml" <;> cases m.typeOf? ".yaml" <;> rfl

lemma typeOf?_withSpellings (m : MediaTypes) (extension : String) :
    m.withSpellings.typeOf? extension =
      if m.typeOf? ".yaml" = none then (m.withType ".yml" "application/x-yaml").typeOf? extension
      else m.typeOf? extension := by
  unfold withSpellings withType
  cases m.typeOf? ".yml" <;> cases m.typeOf? ".yaml" <;> rfl

lemma typeOf?_complete (m : MediaTypes) (extension : String) :
    m.complete.typeOf? extension = (m.typeOf? extension).or (m.addedType? extension) := by
  rw [complete_eq, typeOf?_withType, typeOf?_withSpellings]
  unfold addedType?
  by_cases hlong : m.typeOf? ".yaml" = none
  · rw [if_pos hlong, typeOf?_withType, Option.or_assoc]
    by_cases h : extension = ".yml" <;> simp [h, hlong]
  · simp [hlong]

lemma suffixOf?_complete (m : MediaTypes) (extension : String) :
    m.complete.suffixOf? extension =
      (m.addedSuffixes.lookup extension).or (m.suffixOf? extension) := by
  unfold suffixOf?
  rw [suffixes_complete, List.lookup_append]

lemma lookup_singleton {known other : String}
    (h : [(known, other)].lookup extension = some target) : extension = known := by
  by_contra hne
  simp [List.lookup_cons, beq_false_of_ne hne] at h

/-- Only extensions without a type come to stand for others. -/
lemma unknown_of_added (h : m.addedSuffixes.lookup extension = some target) :
    (extension = ".yml" ∨ extension = ".yaml") ∧ m.typeOf? extension = none := by
  unfold addedSuffixes at h
  split at h
  · cases h
  · next hshort _ =>
    obtain rfl := lookup_singleton h
    exact ⟨.inl rfl, hshort⟩
  · next hlong =>
    obtain rfl := lookup_singleton h
    exact ⟨.inr rfl, hlong⟩

lemma settled_complete (h : m.suffixes = standardSuffixes) : Settled m.complete.suffixes := by
  rw [suffixes_complete, h]
  apply settled_standard
  unfold addedSuffixes
  split <;> simp

lemma length_suffixes_complete (h : m.suffixes = standardSuffixes) :
    0 < m.complete.suffixes.length := by
  rw [suffixes_complete, h, List.length_append]
  exact Nat.lt_of_lt_of_le (by decide) (Nat.le_add_left _ _)

lemma typeOf?_complete_of_some {type : String} (h : m.typeOf? extension = some type) :
    m.complete.typeOf? extension = some type := by
  rw [typeOf?_complete, h, Option.some_or]

/-- Extensions that hide the one before them are neither spelling. -/
lemma not_encoding {extension : List Char} (h : key extension = ".yml" ∨ key extension = ".yaml") :
    ¬ encodingExtensions.contains (String.ofList extension) := by
  have hkeys : ∀ encoding ∈ encodingExtensions,
      key encoding.toList ≠ ".yml" ∧ key encoding.toList ≠ ".yaml" := by decide +kernel
  intro hmem
  obtain ⟨hshort, hlong⟩ := hkeys _ (List.contains_iff_mem.1 hmem)
  rw [String.toList_ofList] at hshort hlong
  exact h.elim hshort hlong

/-- An extension that comes to stand for others gave no path a type before. -/
lemma typeOfExtension?_of_added (hsuffixes : m.suffixes = standardSuffixes)
    (h : m.addedSuffixes.lookup (key (splitExtension path).2) = some target) :
    m.typeOfExtension? path = none := by
  obtain ⟨hspelling, hunknown⟩ := unknown_of_added h
  have hplain : m.suffixOf? (key (splitExtension path).2) = none := by
    unfold suffixOf?
    rw [hsuffixes]
    rcases hspelling with heq | heq <;> rw [heq] <;> decide
  rw [typeOfExtension?_eq, splitResolved_of_done hplain, typeOfSplit?,
    if_neg (not_encoding hspelling), hunknown]

lemma settled_suffixes (h : m.suffixes = standardSuffixes) : Settled m.suffixes := by
  rw [h]
  exact settled_standard [] List.mem_cons_self

lemma typeOfExtension?_complete {type : String} (hsuffixes : m.suffixes = standardSuffixes)
    (h : m.typeOfExtension? path = some type) : m.complete.typeOfExtension? path = some type := by
  have hsame : m.complete.suffixOf? (key (splitExtension path).2) =
      m.suffixOf? (key (splitExtension path).2) := by
    rw [suffixOf?_complete]
    cases hadded : m.addedSuffixes.lookup (key (splitExtension path).2) with
    | none => exact Option.none_or
    | some target =>
      rw [typeOfExtension?_of_added hsuffixes hadded] at h
      cases h
  have hsplit : m.complete.splitResolved path m.complete.suffixes.length =
      m.splitResolved path m.suffixes.length := by
    cases hlookup : m.suffixOf? (key (splitExtension path).2) with
    | none =>
      rw [splitResolved_of_done hlookup, splitResolved_of_done (hsame.trans hlookup)]
    | some target =>
      have hbefore : m.Rewrites path _ := ⟨target, hlookup, rfl⟩
      have hafter : m.complete.Rewrites path _ := ⟨target, hsame.trans hlookup, rfl⟩
      rw [hbefore.splitResolved (settled_suffixes hsuffixes)
          (List.length_pos_of_mem (mem_suffixes hlookup)),
        hafter.splitResolved (settled_complete hsuffixes) (length_suffixes_complete hsuffixes)]
  rw [typeOfExtension?_eq] at h ⊢
  rw [hsplit]
  exact typeOf?_complete_of_some h

/-- Completing hides no type: what could be told of a path before is told of it afterwards. -/
lemma guess?_complete {type : String} (hsuffixes : m.suffixes = standardSuffixes)
    (h : m.guess? path = some type) : m.complete.guess? path = some type := by
  unfold guess? at h ⊢
  cases hscheme : splitScheme? path with
  | none =>
    rw [hscheme] at h
    exact typeOfExtension?_complete hsuffixes h
  | some split =>
    rw [hscheme] at h
    dsimp only at h ⊢
    split at h
    · next hdata => rwa [if_pos hdata]
    · next hdata =>
      rw [if_neg hdata]
      exact typeOfExtension?_complete hsuffixes h

lemma key_yml : key ('.' :: "yml".toList) = ".yml" := by decide +kernel

lemma key_yaml : key ('.' :: "yaml".toList) = ".yaml" := by decide +kernel

lemma suffixOf?_yaml (h : m.typeOf? ".yaml" = none) :
    m.complete.suffixOf? ".yaml" = some ".yml" := by
  rw [suffixOf?_complete, addedSuffixes, h]
  cases m.typeOf? ".yml" <;> rfl

lemma suffixOf?_yml {type : String} (hshort : m.typeOf? ".yml" = none)
    (hlong : m.typeOf? ".yaml" = some type) : m.complete.suffixOf? ".yml" = some ".yaml" := by
  rw [suffixOf?_complete, addedSuffixes, hshort, hlong]
  rfl

lemma guess?_spellings (hsuffixes : m.suffixes = standardSuffixes)
    (h : m.typeOf? ".yml" = none ∨ m.typeOf? ".yaml" = none) (stem : List Char) :
    m.complete.guess? (stem ++ '.' :: "yml".toList) =
      m.complete.guess? (stem ++ '.' :: "yaml".toList) := by
  have hsettled := settled_complete hsuffixes
  have hshort : Lettered "yml".toList := by decide
  have hlong : Lettered "yaml".toList := by decide
  cases hknown : m.typeOf? ".yaml" with
  | none =>
    have hsuffix := key_yaml ▸ suffixOf?_yaml hknown
    exact (guess?_append hlong hshort fun stem =>
      typeOfExtension?_append hsettled hlong hshort hsuffix rfl).symm
  | some type =>
    have hsuffix := key_yml ▸ suffixOf?_yml (h.resolve_right (by simp [hknown])) hknown
    exact guess?_append hshort hlong fun stem =>
      typeOfExtension?_append hsettled hshort hlong hsuffix rfl

lemma guess?_yml (hsuffixes : m.suffixes = standardSuffixes) (hshort : m.typeOf? ".yml" = none)
    (hlong : m.typeOf? ".yaml" = none) (hcolon : ':' ∉ stem) (hnamed : Named stem) :
    m.complete.guess? (stem ++ '.' :: "yml".toList) = some "application/x-yaml" := by
  have hscheme : splitScheme? (stem ++ '.' :: "yml".toList) = none :=
    splitScheme?_of_no_colon (by simpa using hcolon)
  have hsplit : splitExtension (stem ++ '.' :: "yml".toList) = (stem, '.' :: "yml".toList) :=
    splitExtension_of_named hnamed (by decide) (by decide)
  have hdone : m.complete.suffixOf? (key ('.' :: "yml".toList)) = none :=
    ((settled_complete hsuffixes).entries _ (mem_suffixes (suffixOf?_yaml hlong))).2.2
  have htype : m.complete.typeOf? ".yml" = some "application/x-yaml" := by
    rw [typeOf?_complete, hshort, Option.none_or, addedType?, if_pos ⟨rfl, hlong⟩]
  unfold guess?
  rw [hscheme]
  dsimp only
  rw [typeOfExtension?_eq, splitResolved_of_done (by rwa [hsplit]), hsplit, typeOfSplit?,
    if_neg (not_encoding (.inl key_yml)), key_yml, htype]

lemma typeOf?_complete_yaml (m : MediaTypes) : m.complete.typeOf? ".yaml" = m.typeOf? ".yaml" := by
  rw [typeOf?_complete]
  exact Option.or_none

lemma addedType?_complete (m : MediaTypes) (extension : String) :
    m.complete.addedType? extension = m.addedType? extension := by
  unfold addedType?
  rw [typeOf?_complete_yaml]

lemma addedSuffixes_complete (m : MediaTypes) : m.complete.addedSuffixes = m.addedSuffixes := by
  unfold addedSuffixes
  rw [typeOf?_complete_yaml, typeOf?_complete, addedType?]
  cases hshort : m.typeOf? ".yml" <;> cases hlong : m.typeOf? ".yaml" <;> rfl

/-- Completing what is complete changes no entry. -/
lemma complete_complete (m : MediaTypes) (extension : String) :
    m.complete.complete.typeOf? extension = m.complete.typeOf? extension ∧
      m.complete.complete.suffixOf? extension = m.complete.suffixOf? extension := by
  constructor
  · rw [typeOf?_complete, addedType?_complete, typeOf?_complete, Option.or_assoc, Option.or_self]
  · rw [suffixOf?_complete, addedSuffixes_complete, suffixOf?_complete, ← Option.or_assoc,
      Option.or_self]

lemma suffixes_addLine (m : MediaTypes) (line : List Char) :
    (m.addLine line).suffixes = m.suffixes := by
  have hfold (type : String) (extensions : List String) (m : MediaTypes) :
      (extensions.foldl (fun m e => m.addType ("." ++ e) type) m).suffixes = m.suffixes := by
    induction extensions generalizing m with
    | nil => rfl
    | cons extension extensions ih => exact ih _
  unfold addLine
  split
  · rfl
  · exact hfold _ _ m

lemma suffixes_addConfiguration (m : MediaTypes) (text : List Char) :
    (m.addConfiguration text).suffixes = m.suffixes := by
  unfold addConfiguration
  induction Text.lines text generalizing m with
  | nil => rfl
  | cons line lines ih => exact (ih _).trans (m.suffixes_addLine line)

/-- Reads a configuration over the built-in tables, whatever the tables were, and completes them. -/
def initialise (text : List Char) (_ : MediaTypes) : MediaTypes :=
  (standard.addConfiguration text).complete

/-- After initialising, every extension that had a type has it still, and so has every path whose type
could be told. If at most one spelling was known, paths that differ in it only are read alike. If none
was, both are YAML wherever the built-in file types are registered, for paths without a colon whose
last part has a name. There is a type for `.json5`. No extension leads back to itself, so replacing
extensions ends, and the type is looked up where it ends. Initialising again changes nothing, nor does
completing again. -/
theorem initialise_conservative (text : List Char) (before : MediaTypes) :
    let m := standard.addConfiguration text
    let media := initialise text before
    (∀ extension type, m.typeOf? extension = some type → media.typeOf? extension = some type) ∧
    (∀ path type, m.guess? path = some type → media.guess? path = some type) ∧
    ((m.typeOf? ".yml" = none ∨ m.typeOf? ".yaml" = none) → ∀ registry stem,
      Alike (findFileType registry media (some (stem ++ ".yml")) none)
        (findFileType registry media (some (stem ++ ".yaml")) none)) ∧
    (m.typeOf? ".yml" = none → m.typeOf? ".yaml" = none →
      ∀ registry : Registry, registry.Extends .standard →
      ∀ stem : String, ':' ∉ stem.toList → Named stem.toList → ∀ extension ∈ [".yml", ".yaml"],
      findFileType registry media (some (stem ++ extension)) none = .ok ⟨"YAML", some .yaml⟩) ∧
    (media.typeOf? ".json5").isSome ∧
    (∀ extension, ¬ TransGen media.LeadsTo extension extension) ∧
    (WellFounded fun next path => media.Rewrites path next) ∧
    (∀ path, ∃ last, ReflTransGen media.Rewrites path last ∧ (∀ next, ¬ media.Rewrites last next) ∧
      media.splitResolved path media.suffixes.length = splitExtension last) ∧
    initialise text media = media ∧
    ∀ extension, media.complete.typeOf? extension = media.typeOf? extension ∧
      media.complete.suffixOf? extension = media.suffixOf? extension := by
  intro m media
  have hsuffixes : m.suffixes = standardSuffixes := suffixes_addConfiguration _ text
  have hsettled : Settled media.suffixes := settled_complete hsuffixes
  have hshort (stem : String) : (stem ++ ".yml").toList = stem.toList ++ '.' :: "yml".toList :=
    String.toList_append
  have hlong (stem : String) : (stem ++ ".yaml").toList = stem.toList ++ '.' :: "yaml".toList :=
    String.toList_append
  refine ⟨fun extension type => typeOf?_complete_of_some, fun path type => guess?_complete hsuffixes,
    fun hunknown registry stem => findFileType_alike ?_, ?_, ?_, not_transGen_leadsTo hsettled,
    wellFounded_rewrites hsettled,
    fun path => exists_rewritten hsettled path (length_suffixes_complete hsuffixes), rfl,
    complete_complete m⟩
  · rw [hshort, hlong]
    exact guess?_spellings hsuffixes hunknown _
  · intro hunknownShort hunknownLong registry hextends stem hcolon hnamed extension hmem
    have hholder : registry.byMediaType.lookup "application/x-yaml" = some ⟨"YAML", some .yaml⟩ :=
      Registry.lookup_of_prefix hextends.byMediaType (by decide +kernel)
    have hguess := guess?_yml hsuffixes hunknownShort hunknownLong hcolon hnamed
    rcases List.mem_pair.1 hmem with rfl | rfl
    · exact findFileType_of_guess (by rw [hshort]; exact hguess) hholder
    · have hsame := guess?_spellings hsuffixes (.inl hunknownShort) stem.toList
      exact findFileType_of_guess (by rw [hlong, ← hguess]; exact hsame.symm) hholder
  · rw [show media = m.complete from rfl, typeOf?_complete, addedType?]
    simp

/-- With nothing configured both spellings are YAML. With a type for `.yaml` only, that type is kept,
and paths that end in `.yml` have it as well. -/
theorem initialise_conservative_one_known :
    let text := "text/x-list yaml".toList
    findFileType .standard (initialise [] standard) (some ("lists/sums" ++ ".yaml")) none =
        .ok ⟨"YAML", some .yaml⟩ ∧
      (initialise text standard).typeOf? ".yaml" = some "text/x-list" ∧
      (initialise text standard).guess? "lists/sums.YAML".toList = some "text/x-list" ∧
      Alike (findFileType .standard (initialise text standard) (some ("lists/.sums" ++ ".yml")) none)
        (findFileType .standard (initialise text standard) (some ("lists/.sums" ++ ".yaml"))
          none) := by
  intro text
  obtain ⟨-, -, -, hyaml, -⟩ := initialise_conservative [] standard
  obtain ⟨hkept, hguess, halike, -⟩ := initialise_conservative text standard
  have hnamed : Named "lists/sums".toList := by decide
  exact ⟨hyaml (by decide +kernel) (by decide +kernel) .standard (.refl _) "lists/sums" (by decide)
      hnamed ".yaml" (by simp),
    hkept ".yaml" "text/x-list" (by decide +kernel),
    hguess "lists/sums.YAML".toList "text/x-list" (by decide +kernel),
    halike (.inl (by decide +kernel)) .standard "lists/.sums"⟩

end MediaTypes

end PostfixCalculator.Batch
