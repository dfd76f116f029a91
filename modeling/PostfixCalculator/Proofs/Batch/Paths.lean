import PostfixCalculator.Batch.MediaType
import Mathlib.Data.List.TakeWhile

/-!
# Extensions at the end of a path

An extension put behind a path is split off again, unless the last part of the path has nothing but
dots: then the extension is a hidden name itself. It changes neither the scheme of the path nor the
media type that is stated in it.
-/
namespace PostfixCalculator.Batch

variable {stem path extension : List Char}

/-- What follows the last slash. -/
def lastPart (path : List Char) : List Char := (path.reverse.takeWhile (· != '/')).reverse

/-- The last part of the path has a character other than a dot. -/
def Named (path : List Char) : Prop := ∃ c ∈ lastPart path, c ≠ '.'

instance : DecidablePred Named := fun path => List.decidableBEx (· ≠ '.') (lastPart path)

lemma lastPart_append (h : '/' ∉ extension) :
    lastPart (stem ++ extension) = lastPart stem ++ extension := by
  have hrun : ∀ c ∈ extension.reverse, (c != '/') = true := fun c hc =>
    bne_iff_ne.2 (ne_of_mem_of_not_mem (List.mem_reverse.1 hc) h)
  unfold lastPart
  rw [List.reverse_append, List.takeWhile_append_of_pos hrun, List.reverse_append,
    List.reverse_reverse]

lemma length_lastPart_le (path : List Char) : (lastPart path).length ≤ path.length := by
  have hlength := (List.takeWhile_prefix (l := path.reverse) (· != '/')).length_le
  simpa [lastPart] using hlength

/-- Dots in front of the name of a last part start no extension. -/
lemma dropWhile_dot_append (stem extension : List Char) :
    (stem ++ '.' :: extension).dropWhile (· == '.') =
      if stem.dropWhile (· == '.') = [] then extension.dropWhile (· == '.')
      else stem.dropWhile (· == '.') ++ '.' :: extension := by
  rw [List.dropWhile_append]
  simp

lemma named_iff : Named path ↔ (lastPart path).dropWhile (· == '.') ≠ [] := by
  rw [Named, Ne, List.dropWhile_eq_nil_iff]
  simp

lemma splitExtension_of_dot {name : List Char}
    (h : (lastPart path).dropWhile (· == '.') = name ++ '.' :: extension) (hdot : '.' ∉ extension) :
    splitExtension path =
      (path.take (path.length - (extension.length + 1)),
        path.drop (path.length - (extension.length + 1))) := by
  have hstem : (name ++ '.' :: extension).reverse.dropWhile (· != '.') = '.' :: name.reverse := by
    have hrun : ∀ c ∈ extension.reverse, (c != '.') = true := fun c hc =>
      bne_iff_ne.2 (ne_of_mem_of_not_mem (List.mem_reverse.1 hc) hdot)
    rw [List.reverse_append, List.reverse_cons, List.append_assoc,
      List.dropWhile_append_of_pos hrun]
    simp
  have hlength : (name ++ '.' :: extension).length ≤ path.length := by
    rw [← h]
    exact Nat.le_trans (List.dropWhile_suffix _).length_le (length_lastPart_le path)
  have hkeep : path.length - (name ++ '.' :: extension).length +
      (('.' :: name.reverse).length - 1) = path.length - (extension.length + 1) := by
    simp only [List.length_append, List.length_cons, List.length_reverse] at hlength ⊢
    omega
  unfold splitExtension
  rw [← lastPart]
  dsimp only
  rw [h, if_pos (by simp), hstem, hkeep]

lemma splitExtension_of_no_dot (h : '.' ∉ (lastPart path).dropWhile (· == '.')) :
    splitExtension path = (path, []) := by
  unfold splitExtension
  rw [← lastPart]
  exact if_neg (mt List.contains_iff_mem.1 h)

lemma splitExtension_of_named (h : Named stem) (hdot : '.' ∉ extension) (hslash : '/' ∉ extension) :
    splitExtension (stem ++ '.' :: extension) = (stem, '.' :: extension) := by
  have hbody : (lastPart (stem ++ '.' :: extension)).dropWhile (· == '.') =
      (lastPart stem).dropWhile (· == '.') ++ '.' :: extension := by
    rw [lastPart_append (by simpa using hslash), dropWhile_dot_append, if_neg (named_iff.1 h)]
  have hkeep : (stem ++ '.' :: extension).length - (extension.length + 1) = stem.length := by
    rw [List.length_append, List.length_cons, Nat.add_sub_cancel]
  rw [splitExtension_of_dot hbody hdot, hkeep, List.take_left, List.drop_left]

lemma splitExtension_of_not_named (h : ¬ Named stem) (hdot : '.' ∉ extension)
    (hslash : '/' ∉ extension) :
    splitExtension (stem ++ '.' :: extension) = (stem ++ '.' :: extension, []) := by
  refine splitExtension_of_no_dot ?_
  rw [lastPart_append (by simpa using hslash), dropWhile_dot_append,
    if_pos (not_not.1 (mt named_iff.2 h))]
  exact fun hmem => hdot ((List.dropWhile_suffix _).subset hmem)

lemma exists_last_dot (h : '.' ∈ path) :
    ∃ front back, path = front ++ '.' :: back ∧ '.' ∉ back := by
  obtain ⟨back, front, hback, hdot⟩ := List.eq_append_cons_of_mem (List.mem_reverse.2 h)
  refine ⟨front.reverse, back.reverse, ?_, mt List.mem_reverse.1 hdot⟩
  rw [← List.reverse_reverse path, hback, List.reverse_append, List.reverse_cons,
    List.append_assoc, List.singleton_append]

/-- A character that a scheme cannot have. -/
def EndsScheme (c : Char) : Prop := c = '/' ∨ c = ':'

lemma splitScheme?_of_forall_not (h : ∀ c ∈ path, ¬ EndsScheme c) : splitScheme? path = none := by
  have hrun : path.takeWhile (fun c => c != '/' && c != ':') = path :=
    List.takeWhile_eq_self_iff.2 fun c hc => by simpa [EndsScheme] using h c hc
  unfold splitScheme?
  dsimp only
  rw [hrun, List.drop_length]

lemma splitScheme?_at {scheme rest : List Char} {c : Char} (h : ∀ c ∈ scheme, ¬ EndsScheme c)
    (hc : EndsScheme c) :
    splitScheme? (scheme ++ c :: rest) =
      if c = ':' ∧ scheme ≠ [] then some (Text.toLower scheme, rest) else none := by
  have hrun : (scheme ++ c :: rest).takeWhile (fun c => c != '/' && c != ':') = scheme := by
    rw [List.takeWhile_append_of_pos fun c hc => by simpa [EndsScheme] using h c hc]
    rcases hc with rfl | rfl <;> simp
  unfold splitScheme?
  dsimp only
  rw [hrun, List.drop_left]
  rcases hc with rfl | rfl
  · simp
  · cases scheme <;> simp

lemma forall_not_endsScheme_or_split (path : List Char) :
    (∀ c ∈ path, ¬ EndsScheme c) ∨ ∃ scheme c rest, path = scheme ++ c :: rest ∧
      (∀ c ∈ scheme, ¬ EndsScheme c) ∧ EndsScheme c := by
  induction path with
  | nil => exact .inl (by simp)
  | cons first path ih =>
    by_cases hfirst : EndsScheme first
    · exact .inr ⟨[], first, path, rfl, by simp, hfirst⟩
    · rcases ih with hrun | ⟨scheme, c, rest, rfl, hrun, hc⟩
      · exact .inl (List.forall_mem_cons.2 ⟨hfirst, hrun⟩)
      · exact .inr ⟨first :: scheme, c, rest, rfl, List.forall_mem_cons.2 ⟨hfirst, hrun⟩, hc⟩

lemma splitScheme?_append (h : ∀ c ∈ extension, ¬ EndsScheme c) :
    splitScheme? (stem ++ extension) =
      (splitScheme? stem).map fun (scheme, rest) => (scheme, rest ++ extension) := by
  rcases forall_not_endsScheme_or_split stem with hrun | ⟨scheme, c, rest, rfl, hrun, hc⟩
  · rw [splitScheme?_of_forall_not hrun,
      splitScheme?_of_forall_not (List.forall_mem_append.2 ⟨hrun, h⟩)]
    rfl
  · rw [List.append_assoc, List.cons_append, splitScheme?_at hrun hc, splitScheme?_at hrun hc]
    split <;> rfl

lemma splitScheme?_of_no_colon (h : ':' ∉ path) : splitScheme? path = none := by
  rcases forall_not_endsScheme_or_split path with hrun | ⟨scheme, c, rest, rfl, hrun, hc⟩
  · exact splitScheme?_of_forall_not hrun
  · have hslash : c ≠ ':' := fun heq => h (by simp [heq])
    rw [splitScheme?_at hrun hc, if_neg fun hcolon => hslash hcolon.1]

lemma statedType?_append (h : ',' ∉ extension) :
    statedType? (stem ++ extension) = statedType? stem := by
  unfold statedType?
  by_cases hcomma : ',' ∈ stem
  · obtain ⟨head, rest, rfl, hhead⟩ := List.eq_append_cons_of_mem hcomma
    have hrun : ∀ rest, (head ++ ',' :: rest).takeWhile (· != ',') = head := fun rest => by
      rw [List.takeWhile_append_of_pos fun c hc => bne_iff_ne.2 (ne_of_mem_of_not_mem hc hhead)]
      simp
    rw [List.append_assoc, List.cons_append, hrun, hrun]
    simp
  · simp [hcomma, h]

/-- Letters and digits only. -/
def Lettered (extension : List Char) : Prop := ∀ c ∈ extension, c.isAlphanum

instance : DecidablePred Lettered := fun extension =>
  List.decidableBAll (fun c : Char => c.isAlphanum) extension

lemma Lettered.notMem {extension : List Char} (h : Lettered extension) {c : Char}
    (hc : ¬ c.isAlphanum) : c ∉ extension := fun hmem => hc (h c hmem)

lemma splitScheme?_append_extension (h : Lettered extension) :
    splitScheme? (stem ++ '.' :: extension) =
      (splitScheme? stem).map fun (scheme, rest) => (scheme, rest ++ '.' :: extension) := by
  refine splitScheme?_append (List.forall_mem_cons.2 ⟨by simp [EndsScheme], fun c hc => ?_⟩)
  rintro (rfl | rfl)
  · exact h.notMem (by decide) hc
  · exact h.notMem (by decide) hc

lemma statedType?_append_extension (h : Lettered extension) :
    statedType? (stem ++ '.' :: extension) = statedType? stem :=
  statedType?_append (by simpa using h.notMem (by decide))

end PostfixCalculator.Batch
