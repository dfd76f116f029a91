import PostfixCalculator.Batch.Loading
import PostfixCalculator.Proofs.Text.Encoding
import Mathlib.Data.List.Forall2
import Mathlib.Tactic

/-!
# All documents or none

A sequence of documents gives its expressions if every document that is not empty is a text or a
list of texts. Otherwise nothing is given, and the first document of another form is reported.
-/
namespace PostfixCalculator.Batch

open Document

variable {document : Value} {documents : List Value} {found : List String} {fault : ShapeFault}

/-- The document is a text or a list of texts, and these are its expressions. -/
inductive Lists : Value → List String → Prop
  | text (s : String) : Lists (.text s) [s]
  | list (texts : List String) : Lists (.list (texts.map .text)) texts

/-- What is wrong with a document of another form. In a list it is the first item that is no text,
as it is shown; if that has a whole number with too many digits, this is all that is said. -/
inductive Misshapen : Value → ShapeFault → Prop
  | item (texts : List String) (item : Value) (rest : List Value) (other : ∀ s, item ≠ .text s)
      (short : Value.isItemTooLong (texts.map .text ++ item :: rest) texts.length item = false) :
      Misshapen (.list (texts.map .text ++ item :: rest)) (.item texts.length
        (Value.showItem (texts.map .text ++ item :: rest) texts.length item))
  | tooLong (texts : List String) (item : Value) (rest : List Value) (other : ∀ s, item ≠ .text s)
      (long : Value.isItemTooLong (texts.map .text ++ item :: rest) texts.length item = true) :
      Misshapen (.list (texts.map .text ++ item :: rest)) .tooLong
  | kind (document : Value) (noText : ∀ s, document ≠ .text s)
      (noList : ∀ items, document ≠ .list items) : Misshapen document (.kind document.kind)

/-- What a document adds to a sequence: its expressions, or nothing if it is empty. -/
inductive Contributes : Value → List String → Prop
  | null : Contributes .null []
  | lists {document : Value} {found : List String} (h : Lists document found) :
      Contributes document found

lemma textsFrom_append (all : List Value) (index : ℕ) (texts : List String) (rest : List Value) :
    textsFrom all index (texts.map .text ++ rest) =
      (textsFrom all (index + texts.length) rest).map (texts ++ ·) := by
  induction texts generalizing index with
  | nil => cases h : textsFrom all index rest <;> simp [h, Except.map]
  | cons s texts ih =>
    rw [List.map_cons, List.cons_append, textsFrom, ih, List.length_cons, add_assoc, add_comm 1]
    cases textsFrom all (index + (texts.length + 1)) rest <;> rfl

lemma textsFrom_other {item : Value} (other : ∀ s, item ≠ .text s) (all : List Value) (index : ℕ)
    (rest : List Value) :
    textsFrom all index (item :: rest) = .error (itemFault all index item) := by
  cases item with
  | text s => exact absurd rfl (other s)
  | _ => rfl

/-- Items are texts up to the end or up to one that is none. -/
lemma texts_or_other (items : List Value) :
    (∃ texts : List String, items = texts.map .text) ∨
      ∃ (texts : List String) (item : Value) (rest : List Value),
        items = texts.map .text ++ item :: rest ∧ ∀ s, item ≠ .text s := by
  induction items with
  | nil => exact .inl ⟨[], rfl⟩
  | cons first items ih =>
    by_cases htext : ∃ s, first = .text s
    · obtain ⟨s, rfl⟩ := htext
      rcases ih with ⟨texts, rfl⟩ | ⟨texts, item, rest, rfl, other⟩
      · exact .inl ⟨s :: texts, rfl⟩
      · exact .inr ⟨s :: texts, item, rest, rfl, other⟩
    · exact .inr ⟨[], first, items, rfl, not_exists.1 htext⟩

lemma documentExpressions_of_lists (h : Lists document found) :
    documentExpressions document = .ok found := by
  cases h with
  | text s => rfl
  | list =>
    have htexts := textsFrom_append (found.map .text) 0 found []
    rw [List.append_nil] at htexts
    rw [documentExpressions, htexts, textsFrom, Except.map, List.append_nil]

lemma documentExpressions_of_misshapen (h : Misshapen document fault) :
    documentExpressions document = .error fault := by
  cases h with
  | item texts item rest other short =>
    rw [documentExpressions, textsFrom_append, textsFrom_other other, itemFault, zero_add, short]
    rfl
  | tooLong texts item rest other long =>
    rw [documentExpressions, textsFrom_append, textsFrom_other other, itemFault, zero_add, long]
    rfl
  | kind _ noText noList =>
    cases document with
    | text s => exact absurd rfl (noText s)
    | list items => exact absurd rfl (noList items)
    | _ => rfl

lemma lists_or_misshapen (document : Value) :
    (∃ found, Lists document found) ∨ ∃ fault, Misshapen document fault := by
  by_cases htext : ∃ s, document = .text s
  · obtain ⟨s, rfl⟩ := htext
    exact .inl ⟨[s], .text s⟩
  by_cases hlist : ∃ items, document = .list items
  · obtain ⟨items, rfl⟩ := hlist
    rcases texts_or_other items with ⟨texts, rfl⟩ | ⟨texts, item, rest, rfl, other⟩
    · exact .inl ⟨texts, .list texts⟩
    · cases hlong : Value.isItemTooLong (texts.map .text ++ item :: rest) texts.length item with
      | false => exact .inr ⟨_, .item texts item rest other hlong⟩
      | true => exact .inr ⟨_, .tooLong texts item rest other hlong⟩
  · exact .inr ⟨_, .kind document (not_exists.1 htext) (not_exists.1 hlist)⟩

theorem documentExpressions_eq_ok_iff :
    documentExpressions document = .ok found ↔ Lists document found := by
  refine ⟨fun h => ?_, documentExpressions_of_lists⟩
  rcases lists_or_misshapen document with ⟨found', hlists⟩ | ⟨fault, hmisshapen⟩
  · obtain rfl := Except.ok.inj (h.symm.trans (documentExpressions_of_lists hlists))
    exact hlists
  · cases h.symm.trans (documentExpressions_of_misshapen hmisshapen)

theorem documentExpressions_eq_error_iff :
    documentExpressions document = .error fault ↔ Misshapen document fault := by
  refine ⟨fun h => ?_, documentExpressions_of_misshapen⟩
  rcases lists_or_misshapen document with ⟨found, hlists⟩ | ⟨fault', hmisshapen⟩
  · cases h.symm.trans (documentExpressions_of_lists hlists)
  · obtain rfl := Except.error.inj (h.symm.trans (documentExpressions_of_misshapen hmisshapen))
    exact hmisshapen

lemma documentsExpressions_cons (hnull : document ≠ .null) (rest : List Value) :
    documentsExpressions (document :: rest) = documentExpressions document >>= fun found =>
      (documentsExpressions rest).map (found ++ ·) := by
  rw [documentsExpressions]
  · cases documentExpressions document with
    | error fault => rfl
    | ok found => cases documentsExpressions rest <;> rfl
  · exact hnull

lemma Lists.ne_null (h : Lists document found) : document ≠ .null := by
  cases h <;> simp

lemma documentsExpressions_of_contributes (h : Contributes document found) (rest : List Value) :
    documentsExpressions (document :: rest) = (documentsExpressions rest).map (found ++ ·) := by
  cases h with
  | null =>
    rw [documentsExpressions]
    cases documentsExpressions rest <;> rfl
  | lists h =>
    rw [documentsExpressions_cons h.ne_null, documentExpressions_of_lists h]
    rfl

lemma documentsExpressions_of_misshapen (hnull : document ≠ .null) (h : Misshapen document fault)
    (rest : List Value) : documentsExpressions (document :: rest) = .error fault := by
  rw [documentsExpressions_cons hnull, documentExpressions_of_misshapen h]
  rfl

lemma documentsExpressions_append {before : List Value} {parts : List (List String)}
    (h : List.Forall₂ Contributes before parts) (rest : List Value) :
    documentsExpressions (before ++ rest) =
      (documentsExpressions rest).map (parts.flatten ++ ·) := by
  induction h with
  | nil => cases hrest : documentsExpressions rest <;> simp [hrest, Except.map]
  | cons hfirst _ ih =>
    rw [List.cons_append, documentsExpressions_of_contributes hfirst, ih]
    cases documentsExpressions rest <;> simp [Except.map]

/-- The first document that is not empty and has another form is at fault. -/
inductive FirstFault : List Value → ShapeFault → Prop
  | behind (before : List Value) (parts : List (List String)) (document : Value)
      (rest : List Value) (fault : ShapeFault) (listed : List.Forall₂ Contributes before parts)
      (full : document ≠ .null) (misshapen : Misshapen document fault) :
      FirstFault (before ++ document :: rest) fault

lemma documentsExpressions_of_firstFault (h : FirstFault documents fault) :
    documentsExpressions documents = .error fault := by
  cases h with
  | behind before parts document rest _ listed full misshapen =>
    rw [documentsExpressions_append listed, documentsExpressions_of_misshapen full misshapen]
    rfl

lemma contribute_or_firstFault (documents : List Value) :
    (∃ parts, List.Forall₂ Contributes documents parts) ∨ ∃ fault, FirstFault documents fault := by
  induction documents with
  | nil => exact .inl ⟨[], .nil⟩
  | cons first documents ih =>
    have hfirst : (∃ found, Contributes first found) ∨
        first ≠ .null ∧ ∃ fault, Misshapen first fault := by
      by_cases hnull : first = .null
      · exact .inl ⟨[], hnull ▸ .null⟩
      · rcases lists_or_misshapen first with ⟨found, h⟩ | h
        · exact .inl ⟨found, .lists h⟩
        · exact .inr ⟨hnull, h⟩
    rcases hfirst with ⟨found, hfound⟩ | ⟨hnull, fault, hfault⟩
    · rcases ih with ⟨parts, hparts⟩ | ⟨fault, hfault⟩
      · exact .inl ⟨found :: parts, .cons hfound hparts⟩
      · cases hfault with
        | behind before parts document rest _ listed full misshapen =>
          exact .inr ⟨fault, .behind (first :: before) (found :: parts) document rest fault
            (.cons hfound listed) full misshapen⟩
    · exact .inr ⟨fault, .behind [] [] first documents fault .nil hnull hfault⟩

lemma documentsExpressions_of_forall {parts : List (List String)}
    (h : List.Forall₂ Contributes documents parts) :
    documentsExpressions documents = .ok parts.flatten := by
  have hall := documentsExpressions_append h []
  rw [List.append_nil] at hall
  rw [hall, documentsExpressions, Except.map, List.append_nil]

theorem documentsExpressions_eq_ok_iff :
    documentsExpressions documents = .ok found ↔
      ∃ parts, List.Forall₂ Contributes documents parts ∧ parts.flatten = found := by
  constructor
  · intro h
    rcases contribute_or_firstFault documents with ⟨parts, hparts⟩ | ⟨fault, hfault⟩
    · exact ⟨parts, hparts, Except.ok.inj ((documentsExpressions_of_forall hparts).symm.trans h)⟩
    · cases h.symm.trans (documentsExpressions_of_firstFault hfault)
  · rintro ⟨parts, hparts, rfl⟩
    exact documentsExpressions_of_forall hparts

theorem documentsExpressions_eq_error_iff :
    documentsExpressions documents = .error fault ↔ FirstFault documents fault := by
  refine ⟨fun h => ?_, documentsExpressions_of_firstFault⟩
  rcases contribute_or_firstFault documents with ⟨parts, hparts⟩ | ⟨fault', hfault⟩
  · cases h.symm.trans (documentsExpressions_of_forall hparts)
  · obtain rfl := Except.error.inj (h.symm.trans (documentsExpressions_of_firstFault hfault))
    exact hfault

section Loading

variable {read : FileReader} {path : String} {bytes : List UInt8} {text : List Char}

/-- The failure of a file whose documents have another form. -/
def shapeError (path : String) (fault : ShapeFault) : LoadError :=
  .content (baseName path) (.shape fault)

lemma loadFile_of_read {format : Format} (hread : read path = .ok bytes) :
    loadFile read format path = (format.read bytes).mapError (.content (baseName path)) := by
  rw [loadFile, hread]
  rfl

lemma mapError_shape (result : Except ShapeFault (List String)) :
    (result.mapError ContentFault.shape).mapError (.content (baseName path)) =
      result.mapError (shapeError path) := by
  cases result <;> rfl

lemma loadFile_yaml (hread : read path = .ok bytes) (hyaml : Yaml.read bytes = .ok documents) :
    loadFile read .yaml path = (documentsExpressions documents).mapError (shapeError path) := by
  rw [loadFile_of_read hread, ← mapError_shape]
  unfold Format.read
  dsimp only
  rw [readYaml, hyaml]
  rfl

lemma loadFile_json (hread : read path = .ok bytes) (htext : Text.decode bytes = .ok text)
    (hjson : Json.read (Text.unifyLineEnds text) = .ok document) :
    loadFile read .json path = (documentExpressions document).mapError (shapeError path) := by
  rw [loadFile_of_read hread, ← mapError_shape]
  unfold Format.read
  dsimp only
  rw [readJson, htext]
  dsimp only [Except.mapError, bind, Except.bind]
  rw [hjson]

lemma loadFile_json5 (hread : read path = .ok bytes) (htext : Text.decode bytes = .ok text)
    (hjson : Json5.read? (Text.unifyLineEnds text) = some document) :
    loadFile read .json5 path = (documentExpressions document).mapError (shapeError path) := by
  rw [loadFile_of_read hread, ← mapError_shape]
  unfold Format.read
  dsimp only
  rw [readJson5, htext]
  dsimp only [Except.toOption, Option.bind]
  rw [hjson]

lemma message_shapeError (path : String) (h : fault ≠ .tooLong) :
    (shapeError path fault).message =
      "Error parsing " ++ baseName path ++ ": " ++ fault.message := by
  cases fault with
  | tooLong => exact absurd rfl h
  | _ => rfl

end Loading

lemma misshapen_null_iff : Misshapen .null fault ↔ fault = .kind "NoneType" := by
  constructor
  · intro h
    cases h
    rfl
  · rintro rfl
    exact .kind .null (by simp) (by simp)

/-- A sequence of documents gives expressions if and only if every document is empty, a text or a
list of texts, and then those of all documents in order. Otherwise the first document of another
form is reported: by its kind or, if it is a list, by its first item that is no text, unless that
has a whole number with too many digits to be shown. Files of the other two formats have one
document, and if it is empty, that is a fault. -/
theorem documents_all_or_none (documents : List Value) (document : Value) :
    (∀ found, documentsExpressions documents = .ok found ↔
      ∃ parts, List.Forall₂ Contributes documents parts ∧ parts.flatten = found) ∧
    (∀ fault, documentsExpressions documents = .error fault ↔ FirstFault documents fault) ∧
    (∀ found, documentExpressions document = .ok found ↔ Lists document found) ∧
    (∀ fault, documentExpressions document = .error fault ↔ Misshapen document fault) ∧
    (∀ fault, Misshapen .null fault ↔ fault = .kind "NoneType") ∧
    (∀ path fault, fault ≠ .tooLong → (shapeError path fault).message =
      "Error parsing " ++ baseName path ++ ": " ++ fault.message) ∧
    ∀ (read : FileReader) (path : String) (bytes : List UInt8), read path = .ok bytes →
      (Yaml.read bytes = .ok documents →
        loadFile read .yaml path = (documentsExpressions documents).mapError (shapeError path)) ∧
      ∀ text, Text.decode bytes = .ok text →
        (Json.read (Text.unifyLineEnds text) = .ok document →
          loadFile read .json path = (documentExpressions document).mapError (shapeError path)) ∧
        (Json5.read? (Text.unifyLineEnds text) = some document →
          loadFile read .json5 path =
            (documentExpressions document).mapError (shapeError path)) :=
  ⟨fun _ => documentsExpressions_eq_ok_iff, fun _ => documentsExpressions_eq_error_iff,
    fun _ => documentExpressions_eq_ok_iff, fun _ => documentExpressions_eq_error_iff,
    fun _ => misshapen_null_iff, fun path _ => message_shapeError path,
    fun _ _ _ hread => ⟨loadFile_yaml hread, fun _ htext =>
      ⟨loadFile_json hread htext, loadFile_json5 hread htext⟩⟩⟩

/-- The third document is a list with a number, and the second one, which is empty, is left out. In
the other two formats a document that is empty is at fault. -/
theorem documents_all_or_none_item :
    let bytes := Text.encode "--- 1 + 2\n---\n--- ['3', 7]\n".toList
    let null := Text.encode "null".toList
    (∃ documents, Yaml.read bytes = .ok documents ∧ FirstFault documents (.item 1 "7") ∧
      loadFile (fun _ => .ok bytes) .yaml "b.yaml" = .error (shapeError "b.yaml" (.item 1 "7"))) ∧
    loadFile (fun _ => .ok null) .json "n.json" =
      .error (shapeError "n.json" (.kind "NoneType")) ∧
    loadFile (fun _ => .ok null) .json5 "n.json5" =
      .error (shapeError "n.json5" (.kind "NoneType")) := by
  intro bytes null
  have hread : (Yaml.read bytes).toOption.map documentsExpressions =
      some (.error (.item 1 "7")) := by decide +kernel
  have hdecode : Text.decode null = .ok "null".toList := Text.decode_encode _
  have hunify : Text.unifyLineEnds "null".toList = "null".toList := rfl
  obtain ⟨-, -, -, hmisshapen, hnull, -, hload⟩ := documents_all_or_none [] .null
  have hkind := (hmisshapen _).2 ((hnull _).2 rfl)
  refine ⟨?_, ?_, ?_⟩
  · cases hyaml : Yaml.read bytes with
    | error e => rw [hyaml] at hread; cases hread
    | ok documents =>
      rw [hyaml] at hread
      have hfault : documentsExpressions documents = .error (.item 1 "7") := Option.some.inj hread
      obtain ⟨-, hfirst, -, -, -, -, hload⟩ := documents_all_or_none documents .null
      exact ⟨documents, rfl, (hfirst _).1 hfault, by
        rw [(hload _ "b.yaml" bytes rfl).1 hyaml, hfault]; rfl⟩
  · rw [((hload _ "n.json" null rfl).2 _ hdecode).1 (hunify ▸ rfl), hkind]
    rfl
  · rw [((hload _ "n.json5" null rfl).2 _ hdecode).2 (hunify ▸ rfl), hkind]
    rfl

lemma isOverLimit_pow : isOverLimit (Nat.pow 10 digitLimit : ℕ) = true :=
  decide_eq_true (Int.natAbs_natCast _).ge

/-- An item that is a whole number with too many digits is not named. -/
theorem documents_item_too_long :
    let documents : List Value := [.list [.text "1 + 2", .int (Nat.pow 10 digitLimit : ℕ)]]
    documentsExpressions documents = .error .tooLong ∧
      (∀ shown, documentsExpressions documents ≠ .error (.item 1 shown)) ∧
      (shapeError "a.yaml" .tooLong).message =
        "Exceeds the limit (4300 digits) for integer string conversion; " ++
          "use sys.set_int_max_str_digits() to increase the limit" := by
  intro documents
  have hfault : documentsExpressions documents = .error .tooLong :=
    documentsExpressions_of_firstFault (.behind [] [] _ [] _ .nil (by rintro ⟨⟩)
      (.tooLong ["1 + 2"] _ [] (by rintro s ⟨⟩) isOverLimit_pow))
  refine ⟨hfault, fun shown h => ?_, rfl⟩
  cases hfault.symm.trans h

end PostfixCalculator.Batch
