import PostfixCalculator.Proofs.Batch.Registration

/-!
# The first registration holds

Whatever is registered or looked up later, and whether or not it succeeds, a bound media type and a
taken name keep their file type: registrations only add entries behind those that are there.
-/
namespace PostfixCalculator.Batch

/-- What is asked of a registry. -/
inductive Registry.Action where
  | enroll (x : Registration)
  | find (media : MediaTypes) (path type : Option String)
  deriving Repr

inductive Registry.Reply where
  | enrolled (conflict : Option Conflict)
  | found (result : Except LookupError FileType)

namespace Registry

variable {r : Registry} {fileType holder : FileType} {type : String} {types bound : List String}
  {x : Registration}

def perform (r : Registry) : Action → Registry × Reply
  | .enroll x => ((r.enroll x).1, .enrolled (r.enroll x).2)
  | .find media path type => (r, .found (findFileType r media path type))

def performAll (r : Registry) (actions : List Action) : Registry :=
  actions.foldl (fun r action => (r.perform action).1) r

/-- The entries of both tables are there, in their order and before any others. -/
structure Extends (after r : Registry) : Prop where
  byMediaType : r.byMediaType <+: after.byMediaType
  byName : r.byName <+: after.byName

/-- No media type has two entries, and no name. -/
structure Distinct (r : Registry) : Prop where
  byMediaType : (r.byMediaType.map Prod.fst).Nodup
  byName : (r.byName.map Prod.fst).Nodup

/-- What stands in the way of a registration: its first media type that is taken or was listed
before, with the file type that holds it; or, if there is none, its name. -/
inductive Obstructs (r : Registry) (x : Registration) : Conflict → Prop
  | taken {bound rest : List String} {type : String} {holder : FileType}
      (htypes : x.types = bound ++ type :: rest) (hfree : r.Free bound)
      (hholder : r.byMediaType.lookup type = some holder) : Obstructs r x (.mediaType type holder)
  | repeated {bound rest : List String} {type : String}
      (htypes : x.types = bound ++ type :: rest) (hfree : r.Free bound) (hmem : type ∈ bound) :
      Obstructs r x (.mediaType type x.fileType)
  | name {holder : FileType} (hfree : r.Free x.types)
      (hholder : r.byName.lookup x.name = some holder) : Obstructs r x (.name x.name holder)

lemma Extends.refl (r : Registry) : r.Extends r := ⟨List.prefix_rfl, List.prefix_rfl⟩

lemma Extends.trans {r middle after : Registry} (h : middle.Extends r) (h' : after.Extends middle) :
    after.Extends r :=
  ⟨h.byMediaType.trans h'.byMediaType, h.byName.trans h'.byName⟩

lemma lookup_of_prefix {table longer : List (String × FileType)} (h : table <+: longer)
    (hlookup : table.lookup type = some holder) : longer.lookup type = some holder := by
  obtain ⟨more, rfl⟩ := h
  rw [List.lookup_append, hlookup]
  rfl

lemma extends_bind (r : Registry) (fileType : FileType) (types : List String) :
    (r.bind fileType types).Extends r :=
  ⟨List.prefix_append _ _, List.prefix_rfl⟩

lemma extends_enroll (r : Registry) (x : Registration) : (r.enroll x).1.Extends r := by
  have henrolls := r.enrolls x
  generalize r.enroll x = result at henrolls
  cases henrolls with
  | done => exact ⟨(r.extends_bind _ _).byMediaType, List.prefix_append _ _⟩
  | typeTaken => exact r.extends_bind _ _
  | nameTaken => exact r.extends_bind _ _

lemma extends_perform (r : Registry) (action : Action) : (r.perform action).1.Extends r := by
  cases action with
  | enroll x => exact r.extends_enroll x
  | find => exact .refl r

theorem extends_performAll (r : Registry) (actions : List Action) :
    (r.performAll actions).Extends r := by
  induction actions generalizing r with
  | nil => exact .refl r
  | cons action actions ih => exact (r.extends_perform action).trans (ih _)

lemma lookup_map_pair (type : String) (types : List String) (fileType : FileType) :
    (types.map (·, fileType)).lookup type = if type ∈ types then some fileType else none := by
  induction types with
  | nil => rfl
  | cons first types ih =>
    rw [List.map_cons, List.lookup_cons, ih]
    by_cases h : type = first
    · simp [h]
    · simp [h, beq_false_of_ne h]

lemma lookup_bind : (r.bind fileType types).byMediaType.lookup type =
    (r.byMediaType.lookup type).or (if type ∈ types then some fileType else none) := by
  rw [bind, List.lookup_append, lookup_map_pair]

lemma bindTypes_append (h : r.Free bound) (rest : List String) :
    r.bindTypes fileType (bound ++ rest) = (r.bind fileType bound).bindTypes fileType rest := by
  induction bound generalizing r with
  | nil => rw [bind_nil, List.nil_append]
  | cons first bound ih =>
    obtain ⟨hfirst, hbound⟩ := free_cons.1 h
    rw [List.cons_append, bindTypes_free hfirst, ih hbound, ← bind_cons]

lemma bindTypes_of_free (h : r.Free types) :
    r.bindTypes fileType types = (r.bind fileType types, none) := by
  have hbind : r.bindTypes fileType (types ++ []) = _ := bindTypes_append h []
  rwa [List.append_nil] at hbind

lemma conflict_of_free (h : r.Free x.types) :
    (r.enroll x).2 = (r.byName.lookup x.name).map (Conflict.name x.name) := by
  unfold enroll register
  rw [bindTypes_of_free h]
  dsimp only
  rw [show (r.bind x.fileType x.types).byName = r.byName from rfl]
  cases r.byName.lookup x.name <;> rfl

lemma conflict_of_taken {rest : List String} (htypes : x.types = bound ++ type :: rest)
    (hfree : r.Free bound)
    (hholder : (r.bind x.fileType bound).byMediaType.lookup type = some holder) :
    (r.enroll x).2 = some (.mediaType type holder) := by
  unfold enroll register
  rw [htypes, bindTypes_append hfree, bindTypes_taken hholder]

/-- A registration fails with a conflict if and only if that is what stands in its way. -/
theorem enroll_eq_some_iff {conflict : Conflict} :
    (r.enroll x).2 = some conflict ↔ r.Obstructs x conflict := by
  constructor
  · intro h
    have henrolls := r.enrolls x
    generalize r.enroll x = result at h henrolls
    cases henrolls with
    | done => cases h
    | nameTaken hfree hholder =>
      cases h
      exact .name hfree hholder
    | @typeTaken bound rest type holder htypes hfree hholder =>
      cases h
      rw [lookup_bind] at hholder
      cases hlookup : r.byMediaType.lookup type with
      | some first =>
        obtain rfl : first = holder := by simpa [hlookup] using hholder
        exact .taken htypes hfree hlookup
      | none =>
        -- Nobody else holds it, so this registration bound it itself.
        obtain ⟨hmem, rfl⟩ : type ∈ bound ∧ x.fileType = holder := by simpa [hlookup] using hholder
        exact .repeated htypes hfree hmem
  · rintro (⟨htypes, hfree, hholder⟩ | ⟨htypes, hfree, hmem⟩ | ⟨hfree, hholder⟩)
    · exact conflict_of_taken htypes hfree (by rw [lookup_bind, hholder, Option.some_or])
    · refine conflict_of_taken htypes hfree ?_
      rw [lookup_bind, Option.not_isSome_iff_eq_none.1 (hfree.2 _ hmem), Option.none_or,
        if_pos hmem]
    · rw [conflict_of_free hfree, hholder, Option.map_some]

theorem enroll_eq_none_iff :
    (r.enroll x).2 = none ↔ x.types.Nodup ∧ (∀ type ∈ x.types, r.byMediaType.lookup type = none) ∧
      r.byName.lookup x.name = none := by
  constructor
  · intro h
    have henrolls := r.enrolls x
    generalize r.enroll x = result at h henrolls
    cases henrolls with
    | done hfree hname =>
      exact ⟨hfree.1, fun type hmem => Option.not_isSome_iff_eq_none.1 (hfree.2 type hmem), hname⟩
    | typeTaken => cases h
    | nameTaken => cases h
  · rintro ⟨hnodup, hfree, hname⟩
    have hall : r.Free x.types := ⟨hnodup, fun type hmem => by simp [Taken, hfree type hmem]⟩
    rw [conflict_of_free hall, hname, Option.map_none]

/-- A registration adds an entry for each media type up to the conflict, and one for the name if
there is no conflict. -/
lemma enroll_entries (r : Registry) (x : Registration) :
    ∃ bound, bound <+: x.types ∧
      (r.enroll x).1.byMediaType = r.byMediaType ++ bound.map (·, x.fileType) ∧
      (r.enroll x).1.byName =
        r.byName ++ if (r.enroll x).2.isNone then [(x.name, x.fileType)] else [] := by
  have henrolls := r.enrolls x
  generalize r.enroll x = result at henrolls
  cases henrolls with
  | done => exact ⟨x.types, List.prefix_rfl, rfl, rfl⟩
  | typeTaken htypes =>
    exact ⟨_, htypes ▸ List.prefix_append _ _, rfl, (List.append_nil _).symm⟩
  | nameTaken => exact ⟨x.types, List.prefix_rfl, rfl, (List.append_nil _).symm⟩

lemma lookup_eq_none_iff {table : List (String × FileType)} :
    table.lookup type = none ↔ type ∉ table.map Prod.fst := by
  rw [List.lookup_eq_none_iff]
  constructor
  · intro h hmem
    obtain ⟨entry, hentry, rfl⟩ := List.mem_map.1 hmem
    simpa using h entry hentry
  · intro h entry hentry
    refine bne_iff_ne.2 ?_
    rintro rfl
    exact h (List.mem_map_of_mem hentry)

lemma Distinct.bind (h : r.Distinct) (hfree : r.Free types) :
    (r.bind fileType types).Distinct where
  byMediaType := by
    have hkeys : (r.bind fileType types).byMediaType.map Prod.fst =
        r.byMediaType.map Prod.fst ++ types := by simp [Registry.bind, Function.comp_def]
    rw [hkeys, List.nodup_append]
    refine ⟨h.byMediaType, hfree.1, ?_⟩
    rintro type hmem _ htype rfl
    exact lookup_eq_none_iff.1 (Option.not_isSome_iff_eq_none.1 (hfree.2 type htype)) hmem
  byName := h.byName

lemma Distinct.enroll (h : r.Distinct) (x : Registration) : (r.enroll x).1.Distinct := by
  have henrolls := r.enrolls x
  generalize r.enroll x = result at henrolls
  cases henrolls with
  | typeTaken htypes hfree => exact h.bind hfree
  | nameTaken hfree => exact h.bind hfree
  | done hfree hname =>
    refine ⟨(h.bind hfree).byMediaType, ?_⟩
    rw [List.map_append, List.map_singleton, List.nodup_append]
    refine ⟨h.byName, List.nodup_singleton _, ?_⟩
    rintro name hmem _ hnew rfl
    rw [List.mem_singleton.1 hnew] at hmem
    exact lookup_eq_none_iff.1 hname hmem

lemma Distinct.perform (h : r.Distinct) (action : Action) : (r.perform action).1.Distinct := by
  cases action with
  | enroll x => exact h.enroll x
  | find => exact h

lemma Distinct.performAll (h : r.Distinct) (actions : List Action) :
    (r.performAll actions).Distinct := by
  induction actions generalizing r with
  | nil => exact h
  | cons action actions ih => exact ih (h.perform action)

lemma distinct_empty : empty.Distinct := ⟨.nil, .nil⟩

lemma perform_find_bound (h : r.byMediaType.lookup type = some holder) (media : MediaTypes)
    (path : Option String) :
    r.perform (.find media path (some type)) = (r, .found (.ok holder)) := by
  unfold perform findFileType
  dsimp only
  rw [h]

/-- After any registrations and lookups, what is bound stays bound to the same file type whatever is
done later, and is found by its media type. A registration succeeds if and only if its media types
are free and different and its name is free. Otherwise it reports what stands in its way. Both
tables grow in the order of registration and have one entry for each key. -/
theorem performAll_bindings (earlier later : List Action) :
    let r := empty.performAll earlier
    let after := r.performAll later
    (∀ type holder, r.byMediaType.lookup type = some holder →
      after.byMediaType.lookup type = some holder ∧
      ∀ media path, after.perform (.find media path (some type)) = (after, .found (.ok holder))) ∧
    (∀ name holder, r.byName.lookup name = some holder →
      after.byName.lookup name = some holder) ∧
    (∀ x, (r.enroll x).2 = none ↔ x.types.Nodup ∧
      (∀ type ∈ x.types, r.byMediaType.lookup type = none) ∧ r.byName.lookup x.name = none) ∧
    (∀ x conflict, (r.enroll x).2 = some conflict ↔ r.Obstructs x conflict) ∧
    (∀ media path type, (r.perform (.find media path type)).1 = r) ∧
    after.Extends r ∧ r.Distinct ∧
    ∀ x, ∃ bound, bound <+: x.types ∧
      (r.enroll x).1.byMediaType = r.byMediaType ++ bound.map (·, x.fileType) ∧
      (r.enroll x).1.byName =
        r.byName ++ if (r.enroll x).2.isNone then [(x.name, x.fileType)] else [] := by
  intro r after
  have hextends : after.Extends r := r.extends_performAll later
  refine ⟨fun type holder h => ?_, fun name holder => lookup_of_prefix hextends.byName,
    fun x => enroll_eq_none_iff, fun x conflict => enroll_eq_some_iff, fun media path type => rfl,
    hextends, distinct_empty.performAll earlier, r.enroll_entries⟩
  have hafter := lookup_of_prefix hextends.byMediaType h
  exact ⟨hafter, perform_find_bound hafter⟩

/-- A registration that fails leaves `a/b` bound to its file type, and that stops one that asks for
`a/b` later. One that lists `c/d` twice is stopped by itself. -/
theorem performAll_bindings_residue :
    let x : Registration := ⟨⟨"X", none⟩, "x", ["a/b", "text/plain"]⟩
    let y : Registration := ⟨⟨"Y", none⟩, "y", ["c/d", "a/b"]⟩
    let z : Registration := ⟨⟨"Z", none⟩, "z", ["e/f", "e/f"]⟩
    let r := empty.performAll ((builtInRegistrations ++ [x]).map .enroll)
    let after := r.performAll [.enroll y, .enroll z]
    r.byMediaType.lookup "a/b" = some x.fileType ∧
      after.byMediaType.lookup "a/b" = some x.fileType ∧
      after.byName.lookup "yaml" = some ⟨"YAML", some .yaml⟩ ∧
      r.Obstructs y (.mediaType "a/b" x.fileType) ∧ r.Obstructs z (.mediaType "e/f" z.fileType) := by
  intro x y z r after
  obtain ⟨htypes, hnames, -, hconflict, -⟩ := performAll_bindings
    ((builtInRegistrations ++ [x]).map .enroll) [.enroll y, .enroll z]
  have hbound : r.byMediaType.lookup "a/b" = some x.fileType := by decide +kernel
  exact ⟨hbound, (htypes _ _ hbound).1, hnames _ _ (by decide +kernel),
    (hconflict y _).1 (by decide +kernel), (hconflict z _).1 (by decide +kernel)⟩

end Registry

end PostfixCalculator.Batch
