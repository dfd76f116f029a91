import PostfixCalculator.Batch.Registry
import Mathlib.Data.List.Nodup

/-!
# What a failed registration leaves behind

A registration binds its media types up to the first one that is taken. If it fails, the media types
before the conflict stay bound to a file type that has no name. So a failed registration changes
nothing only if its first media type is taken.
-/
namespace PostfixCalculator.Batch

/-- A file type with the name and the media types that it is to be known by. -/
structure Registration where
  fileType : FileType
  name : String
  types : List String
  deriving DecidableEq, Repr

namespace Registry

variable {r : Registry} {fileType : FileType} {type : String} {types : List String}
  {x : Registration} {xs : List Registration}

def Taken (r : Registry) (type : String) : Prop := (r.byMediaType.lookup type).isSome

instance (r : Registry) (type : String) : Decidable (r.Taken type) :=
  inferInstanceAs (Decidable (_ = true))

def bind (r : Registry) (fileType : FileType) (types : List String) : Registry :=
  { r with byMediaType := r.byMediaType ++ types.map (·, fileType) }

/-- No media type is listed twice, and none is taken. -/
def Free (r : Registry) (types : List String) : Prop := types.Nodup ∧ ∀ type ∈ types, ¬ r.Taken type

def enroll (r : Registry) (x : Registration) : Registry × Option Conflict :=
  r.register x.fileType x.name x.types

/-- What is registered after more registrations in order, whether or not they fail. -/
def enrollAll (r : Registry) (xs : List Registration) : Registry :=
  xs.foldl (fun r x => (r.enroll x).1) r

@[simp] lemma bind_nil (r : Registry) (fileType : FileType) : r.bind fileType [] = r := by
  simp [bind]

lemma bind_cons (r : Registry) (fileType : FileType) (type : String) (types : List String) :
    r.bind fileType (type :: types) = (r.bind fileType [type]).bind fileType types := by
  simp [bind]

lemma taken_bind_singleton {other : String} :
    (r.bind fileType [type]).Taken other ↔ r.Taken other ∨ other = type := by
  unfold Taken bind
  rw [List.lookup_append, Option.isSome_or, Bool.or_eq_true, List.map_singleton, List.lookup_cons]
  by_cases h : other = type
  · simp [h]
  · simp [h, beq_false_of_ne h]

lemma free_cons :
    r.Free (type :: types) ↔ ¬ r.Taken type ∧ (r.bind fileType [type]).Free types := by
  unfold Free
  rw [List.nodup_cons, List.forall_mem_cons]
  constructor
  · rintro ⟨⟨hnew, hnodup⟩, htype, hfree⟩
    refine ⟨htype, hnodup, fun other hother htaken => ?_⟩
    rcases taken_bind_singleton.1 htaken with htaken | rfl
    · exact hfree other hother htaken
    · exact hnew hother
  · rintro ⟨htype, hnodup, hfree⟩
    refine ⟨⟨fun hmem => hfree type hmem (taken_bind_singleton.2 (.inr rfl)), hnodup⟩, htype, ?_⟩
    exact fun other hother htaken => hfree other hother (taken_bind_singleton.2 (.inl htaken))

/-- How binding media types in order ends: with all of them bound, or at one that is taken, perhaps
by the file type itself. -/
inductive Binds (r : Registry) (fileType : FileType) (types : List String) :
    Registry × Option Conflict → Prop
  | all (hfree : r.Free types) : Binds r fileType types (r.bind fileType types, none)
  | upTo {bound rest : List String} {type : String} {holder : FileType}
      (htypes : types = bound ++ type :: rest) (hfree : r.Free bound)
      (hholder : (r.bind fileType bound).byMediaType.lookup type = some holder) :
      Binds r fileType types (r.bind fileType bound, some (.mediaType type holder))

lemma bindTypes_taken {holder : FileType} (h : r.byMediaType.lookup type = some holder) :
    r.bindTypes fileType (type :: types) = (r, some (.mediaType type holder)) := by
  rw [bindTypes, h]

lemma bindTypes_free (h : ¬ r.Taken type) :
    r.bindTypes fileType (type :: types) = (r.bind fileType [type]).bindTypes fileType types := by
  rw [Taken, Option.not_isSome_iff_eq_none] at h
  rw [bindTypes, h]
  rfl

theorem binds (r : Registry) (fileType : FileType) (types : List String) :
    Binds r fileType types (r.bindTypes fileType types) := by
  induction types generalizing r with
  | nil =>
    have hbinds : Binds r fileType [] (r.bind fileType [], none) := .all ⟨.nil, by simp⟩
    rwa [bind_nil] at hbinds
  | cons type types ih =>
    cases hlookup : r.byMediaType.lookup type with
    | some holder =>
      rw [bindTypes_taken hlookup]
      have hbinds : Binds r fileType (type :: types) (r.bind fileType [], _) :=
        .upTo rfl ⟨.nil, by simp⟩ ((r.bind_nil fileType).symm ▸ hlookup)
      rwa [bind_nil] at hbinds
    | none =>
      have htype : ¬ r.Taken type := by simp [Taken, hlookup]
      have hrest := ih (r.bind fileType [type])
      rw [bindTypes_free htype]
      generalize (r.bind fileType [type]).bindTypes fileType types = result at hrest
      cases hrest with
      | all hfree =>
        rw [← bind_cons]
        exact .all (free_cons.2 ⟨htype, hfree⟩)
      | upTo htypes hfree hholder =>
        rw [← bind_cons] at hholder ⊢
        exact .upTo (congrArg (type :: ·) htypes) (free_cons.2 ⟨htype, hfree⟩) hholder

/-- How a registration ends. The name is looked at only when all media types are bound. -/
inductive Enrolls (r : Registry) (x : Registration) : Registry × Option Conflict → Prop
  | done (hfree : r.Free x.types) (hname : r.byName.lookup x.name = none) :
      Enrolls r x ({ r.bind x.fileType x.types with byName := r.byName ++ [(x.name, x.fileType)] },
        none)
  | typeTaken {bound rest : List String} {type : String} {holder : FileType}
      (htypes : x.types = bound ++ type :: rest) (hfree : r.Free bound)
      (hholder : (r.bind x.fileType bound).byMediaType.lookup type = some holder) :
      Enrolls r x (r.bind x.fileType bound, some (.mediaType type holder))
  | nameTaken {holder : FileType} (hfree : r.Free x.types)
      (hholder : r.byName.lookup x.name = some holder) :
      Enrolls r x (r.bind x.fileType x.types, some (.name x.name holder))

theorem enrolls (r : Registry) (x : Registration) : Enrolls r x (r.enroll x) := by
  have hbinds := r.binds x.fileType x.types
  unfold enroll register
  generalize r.bindTypes x.fileType x.types = result at hbinds
  cases hbinds with
  | upTo htypes hfree hholder => exact .typeTaken htypes hfree hholder
  | all hfree =>
    dsimp only
    split
    · next holder hholder => exact .nameTaken hfree hholder
    · next hname => exact .done hfree hname

lemma bind_eq_self_iff : r.bind fileType types = r ↔ types = [] := by
  constructor
  · intro h
    have hlength := congrArg (fun r : Registry => r.byMediaType.length) h
    simpa [bind] using hlength
  · rintro rfl
    exact r.bind_nil fileType

/-- A registration that fails changes nothing if and only if its first media type is taken already. -/
theorem enroll_eq_self_iff (h : (r.enroll x).2.isSome) :
    (r.enroll x).1 = r ↔ ∀ type ∈ x.types.head?, r.Taken type := by
  have henrolls := r.enrolls x
  generalize r.enroll x = result at h henrolls
  cases henrolls with
  | done hfree hname => cases h
  | @typeTaken bound rest type holder htypes hfree hholder =>
    refine bind_eq_self_iff.trans ?_
    rw [htypes]
    cases bound with
    | nil =>
      have htaken : r.Taken type := Option.isSome_of_eq_some (r.bind_nil x.fileType ▸ hholder)
      simp [htaken]
    | cons first bound =>
      have hfirst : ¬ r.Taken first := hfree.2 first List.mem_cons_self
      simp [hfirst]
  | nameTaken hfree hholder =>
    refine bind_eq_self_iff.trans ?_
    cases htypes : x.types with
    | nil => simp
    | cons first rest =>
      have hfirst : ¬ r.Taken first := hfree.2 first (by simp [htypes])
      simp [hfirst]

/-- Every bound media type belongs to a file type that has a name. -/
def Owned (r : Registry) : Prop :=
  ∀ type fileType, (type, fileType) ∈ r.byMediaType → ∃ name, (name, fileType) ∈ r.byName

/-- The file types in both tables are among these. -/
structure Among (r : Registry) (known : List FileType) : Prop where
  byMediaType : ∀ type fileType, (type, fileType) ∈ r.byMediaType → fileType ∈ known
  byName : ∀ name fileType, (name, fileType) ∈ r.byName → fileType ∈ known

lemma mem_bind {holder : FileType} :
    (type, holder) ∈ (r.bind fileType types).byMediaType ↔
      (type, holder) ∈ r.byMediaType ∨ type ∈ types ∧ holder = fileType := by
  simp [bind, eq_comm]

lemma Among.bind {known : List FileType} (h : r.Among known) :
    (r.bind fileType types).Among (known ++ [fileType]) where
  byMediaType type holder hmem := by
    rcases mem_bind.1 hmem with hmem | ⟨-, rfl⟩
    · exact List.mem_append_left _ (h.byMediaType type holder hmem)
    · exact List.mem_append_right _ List.mem_cons_self
  byName name holder hmem := List.mem_append_left _ (h.byName name holder hmem)

lemma Among.enroll {known : List FileType} (h : r.Among known) (x : Registration) :
    (r.enroll x).1.Among (known ++ [x.fileType]) := by
  have henrolls := r.enrolls x
  generalize r.enroll x = result at henrolls
  cases henrolls with
  | typeTaken => exact h.bind
  | nameTaken => exact h.bind
  | done hfree hname =>
    refine ⟨h.bind.byMediaType, fun name holder hmem => ?_⟩
    rcases List.mem_append.1 hmem with hmem | hmem
    · exact List.mem_append_left _ (h.byName name holder hmem)
    · cases List.mem_singleton.1 hmem
      exact List.mem_append_right _ List.mem_cons_self

lemma owned_bind_iff {known : List FileType} (h : r.Among known) (hnew : fileType ∉ known) :
    (r.bind fileType types).Owned ↔ r.Owned ∧ r.bind fileType types = r := by
  constructor
  · intro howned
    have hnone : types = [] := by
      refine List.eq_nil_iff_forall_not_mem.2 fun type htype => ?_
      obtain ⟨name, hname⟩ := howned type fileType (mem_bind.2 (.inr ⟨htype, rfl⟩))
      exact hnew (h.byName name fileType hname)
    have hsame : r.bind fileType types = r := bind_eq_self_iff.2 hnone
    exact ⟨hsame ▸ howned, hsame⟩
  · rintro ⟨howned, hsame⟩
    rwa [hsame]

/-- A registration keeps every bound media type with a name exactly if it succeeds or changes
nothing. -/
theorem owned_enroll_iff {known : List FileType} (h : r.Among known) (hnew : x.fileType ∉ known) :
    (r.enroll x).1.Owned ↔ r.Owned ∧ ((r.enroll x).2.isSome → (r.enroll x).1 = r) := by
  have henrolls := r.enrolls x
  generalize r.enroll x = result at henrolls
  cases henrolls with
  | typeTaken => simpa using owned_bind_iff h hnew
  | nameTaken => simpa using owned_bind_iff h hnew
  | done hfree hname =>
    simp only [Option.isSome_none, Bool.false_eq_true, false_imp_iff, and_true]
    constructor
    · intro howned type holder hmem
      obtain ⟨name, hname⟩ := howned type holder (mem_bind.2 (.inl hmem))
      rcases List.mem_append.1 hname with hname | hname
      · exact ⟨name, hname⟩
      · cases List.mem_singleton.1 hname
        exact absurd (h.byMediaType type _ hmem) hnew
    · intro howned type holder hmem
      rcases mem_bind.1 hmem with hmem | ⟨-, rfl⟩
      · obtain ⟨name, hname⟩ := howned type holder hmem
        exact ⟨name, List.mem_append_left _ hname⟩
      · exact ⟨x.name, List.mem_append_right _ List.mem_cons_self⟩

/-- Each of the registrations changes nothing if it fails. -/
def Atomic (r : Registry) : List Registration → Prop
  | [] => True
  | x :: xs => ((r.enroll x).2.isSome → (r.enroll x).1 = r) ∧ (r.enroll x).1.Atomic xs

instance Atomic.decidable : (r : Registry) → (xs : List Registration) → Decidable (r.Atomic xs)
  | _, [] => inferInstanceAs (Decidable True)
  | r, x :: xs =>
    have := Atomic.decidable (r.enroll x).1 xs
    inferInstanceAs (Decidable (_ ∧ _))

theorem owned_enrollAll_iff {known : List FileType} (h : r.Among known)
    (hdistinct : (known ++ xs.map Registration.fileType).Nodup) :
    (r.enrollAll xs).Owned ↔ r.Owned ∧ r.Atomic xs := by
  induction xs generalizing r known with
  | nil => exact (and_iff_left trivial).symm
  | cons x xs ih =>
    have hnew : x.fileType ∉ known :=
      fun hmem => (List.nodup_append.1 hdistinct).2.2 _ hmem _ List.mem_cons_self rfl
    rw [List.map_cons, ← List.singleton_append, ← List.append_assoc] at hdistinct
    exact (ih (h.enroll x) hdistinct).trans
      ((and_congr_left' (owned_enroll_iff h hnew)).trans and_assoc)

lemma among_empty : empty.Among [] where
  byMediaType _ _ hmem := by cases hmem
  byName _ _ hmem := by cases hmem

lemma owned_empty : empty.Owned := fun _ _ hmem => by cases hmem

/-- The built-in file types, as they are registered. -/
def builtInRegistrations : List Registration :=
  builtIn.map fun (format, label, name, types) => ⟨⟨label, some format⟩, name, types⟩

lemma enrollAll_builtIn : empty.enrollAll builtInRegistrations = standard := List.foldl_map

/-- A registration binds the media types before the conflict, if there is one, and its name if there
is none. If it fails, it changes nothing if and only if its first media type is taken already. After
registrations of different file types every bound media type belongs to a file type with a name if
and only if each of them that failed had changed nothing. -/
theorem enroll_after (xs : List Registration) :
    let r := empty.enrollAll xs
    (∀ x, Enrolls r x (r.enroll x)) ∧
    (∀ x, (r.enroll x).2.isSome →
      ((r.enroll x).1 = r ↔ ∀ type ∈ x.types.head?, r.Taken type)) ∧
    ((xs.map Registration.fileType).Nodup → (r.Owned ↔ empty.Atomic xs)) := by
  intro r
  refine ⟨r.enrolls, fun x => enroll_eq_self_iff, fun hdistinct => ?_⟩
  exact (owned_enrollAll_iff among_empty hdistinct).trans (and_iff_right owned_empty)

/-- After the built-in file types, one that asks for `text/plain` first is stopped at once. -/
theorem enroll_after_builtIn :
    let x : Registration := ⟨⟨"X", none⟩, "x", ["text/plain", "a/b"]⟩
    let xs := builtInRegistrations ++ [x]
    (standard.enroll x).2 = some (.mediaType "text/plain" ⟨"TextFile", some .text⟩) ∧
      (standard.enroll x).1 = standard ∧ (xs.map Registration.fileType).Nodup ∧
      empty.Atomic xs ∧ (empty.enrollAll xs).Owned := by
  intro x xs
  have hconflict : (standard.enroll x).2 =
      some (.mediaType "text/plain" ⟨"TextFile", some .text⟩) := by decide +kernel
  have hstep := (enroll_after builtInRegistrations).2.1 x
  rw [enrollAll_builtIn] at hstep
  have hsame : (standard.enroll x).1 = standard :=
    (hstep (Option.isSome_of_eq_some hconflict)).2 (by decide +kernel)
  have hdistinct : (xs.map Registration.fileType).Nodup := by decide +kernel
  have hatomic : empty.Atomic xs := by decide +kernel
  exact ⟨hconflict, hsame, hdistinct, hatomic, ((enroll_after xs).2.2 hdistinct).2 hatomic⟩

/-- One that asks for `a/b` first leaves it bound, though it has no name itself. -/
theorem enroll_leaves_bound :
    let x : Registration := ⟨⟨"X", none⟩, "x", ["a/b", "text/plain"]⟩
    let r := (standard.enroll x).1
    (standard.enroll x).2 = some (.mediaType "text/plain" ⟨"TextFile", some .text⟩) ∧
      r.byMediaType = standard.byMediaType ++ [("a/b", x.fileType)] ∧
      r.byName = standard.byName ∧ r ≠ standard ∧ ¬ r.Owned := by
  intro x r
  have hname : ∀ entry ∈ r.byName, entry.2 ≠ x.fileType := by decide +kernel
  refine ⟨by decide +kernel, by decide +kernel, by decide +kernel, by decide +kernel, ?_⟩
  intro howned
  have hbound : ("a/b", x.fileType) ∈ r.byMediaType := by decide +kernel
  obtain ⟨name, hmem⟩ := howned _ _ hbound
  exact hname _ hmem rfl

end Registry

end PostfixCalculator.Batch
