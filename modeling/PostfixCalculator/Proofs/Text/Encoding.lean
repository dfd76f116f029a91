import PostfixCalculator.Text.Utf8
import Mathlib.Tactic

/-!
# Reading what was written

The bytes of a text are decoded to this text, all at once or in blocks. A block may end within the
bytes of a character, which then waits for the next block.
-/
namespace PostfixCalculator.Text

variable {b : UInt8} {more part rest block later : List UInt8} {c : Char} {text : List Char}

/-- Bytes that may follow a first byte, the first of them within some bounds. -/
def Follow (low high : ℕ) : List UInt8 → Prop
  | [] => True
  | b :: rest => low ≤ b.toNat ∧ b.toNat ≤ high ∧ Follow 0x80 0xBF rest

lemma goodFollowers_append {low high : ℕ} (h : Follow low high more) (rest : List UInt8) :
    goodFollowers more.length low high (more ++ rest) = more := by
  induction more generalizing low high with
  | nil => cases rest <;> rfl
  | cons b more ih =>
    obtain ⟨hlow, hhigh, hmore⟩ := h
    simp [goodFollowers, hlow, hhigh, ih hmore]

lemma goodFollowers_of_short {low high count : ℕ} (h : Follow low high part)
    (hcount : part.length ≤ count) : goodFollowers count low high part = part := by
  induction part generalizing low high count with
  | nil => rw [goodFollowers]
  | cons b part ih =>
    obtain ⟨hlow, hhigh, hpart⟩ := h
    obtain ⟨count, rfl⟩ := Nat.exists_eq_add_one_of_ne_zero (Nat.ne_zero_of_lt hcount)
    have hrest := ih hpart (Nat.le_of_succ_le_succ hcount)
    simp [goodFollowers, hlow, hhigh, hrest]

lemma Follow.of_append {low high : ℕ} (h : Follow low high (part ++ rest)) :
    Follow low high part := by
  induction part generalizing low high with
  | nil => trivial
  | cons b part ih => exact ⟨h.1, h.2.1, ih h.2.2⟩

/-- The bytes of a character: a first byte and those that follow it. -/
structure Spells (c : Char) (b : UInt8) (more : List UInt8) : Prop where
  bytes : encodeChar c = b :: more
  bounds : ∃ low high, followers b = some (more.length, low, high) ∧ Follow low high more
  bits : joinBits (leadBits b more.length) more = c.toNat

lemma Spells.front (h : Spells c b more) (rest : List UInt8) :
    front b (more ++ rest) = .char c (more.length + 1) := by
  obtain ⟨low, high, hfollowers, hmore⟩ := h.bounds
  unfold Text.front
  rw [hfollowers]
  simp only [goodFollowers_append hmore, beq_self_eq_true, if_true, h.bits, Char.ofNat_toNat]

/-- A character whose bytes do not all stand there is unfinished. -/
lemma Spells.front_part (h : Spells c b more) (hpart : part <+: more) (hne : part ≠ more) :
    Text.front b part = .unfinished := by
  obtain ⟨low, high, hfollowers, hmore⟩ := h.bounds
  obtain ⟨rest, rfl⟩ := hpart
  have hrest : rest ≠ [] := by
    rintro rfl
    exact hne (List.append_nil part).symm
  have hlength : part.length ≤ (part ++ rest).length := by simp
  have hgood := goodFollowers_of_short hmore.of_append hlength
  unfold Text.front
  rw [hfollowers]
  dsimp only
  rw [hgood]
  simp [hrest]

lemma followers_one (h : b.toNat < 0x80) : followers b = some (0, 0, 0) := by
  simp [followers, h]

lemma followers_two (hlow : 0xC2 ≤ b.toNat) (hhigh : b.toNat < 0xE0) :
    followers b = some (1, 0x80, 0xBF) := by
  unfold followers
  dsimp only
  rw [if_neg (by omega), if_neg (by omega), if_pos hhigh]

lemma followers_three (hlow : 0xE0 ≤ b.toNat) (hhigh : b.toNat < 0xF0) :
    followers b = some (2, if b.toNat = 0xE0 then 0xA0 else 0x80,
      if b.toNat = 0xED then 0x9F else 0xBF) := by
  unfold followers
  dsimp only
  rw [if_neg (by omega), if_neg (by omega), if_neg (by omega)]
  simp only [beq_iff_eq]
  split_ifs <;> first | rfl | omega

lemma followers_four (hlow : 0xF0 ≤ b.toNat) (hhigh : b.toNat < 0xF5) :
    followers b = some (3, if b.toNat = 0xF0 then 0x90 else 0x80,
      if b.toNat = 0xF4 then 0x8F else 0xBF) := by
  unfold followers
  dsimp only
  rw [if_neg (by omega), if_neg (by omega), if_neg (by omega)]
  simp only [beq_iff_eq]
  split_ifs <;> first | rfl | omega

/-- Code points leave out the halves of pairs. -/
lemma toNat_bounds (c : Char) : c.toNat < 0xD800 ∨ 0xDFFF < c.toNat ∧ c.toNat < 0x110000 := c.valid

lemma toNat_ofNat {n : ℕ} (h : n < 256) : (UInt8.ofNat n).toNat = n := by
  rw [UInt8.toNat_ofNat', Nat.mod_eq_of_lt h]

lemma encodeChar_one (h : c.toNat < 0x80) : Spells c (.ofNat c.toNat) [] := by
  have hb := toNat_ofNat (show c.toNat < 256 by omega)
  refine ⟨?_, ⟨0, 0, followers_one (by omega), trivial⟩, hb⟩
  simp [encodeChar, h]

lemma encodeChar_two (hlow : 0x80 ≤ c.toNat) (hhigh : c.toNat < 0x800) :
    Spells c (.ofNat (0xC0 + c.toNat / 64)) [.ofNat (0x80 + c.toNat % 64)] := by
  have hb := toNat_ofNat (show 0xC0 + c.toNat / 64 < 256 by omega)
  have ht := toNat_ofNat (show 0x80 + c.toNat % 64 < 256 by omega)
  refine ⟨?_, ⟨0x80, 0xBF, followers_two (by omega) (by omega), ?_⟩, ?_⟩
  · simp [encodeChar, hlow.not_gt, hhigh]
  · exact ⟨by omega, by omega, trivial⟩
  · simp [joinBits, leadBits]
    omega

lemma encodeChar_three (hlow : 0x800 ≤ c.toNat) (hhigh : c.toNat < 0x10000) :
    Spells c (.ofNat (0xE0 + c.toNat / 4096))
      [.ofNat (0x80 + c.toNat / 64 % 64), .ofNat (0x80 + c.toNat % 64)] := by
  have hbounds := toNat_bounds c
  have hb := toNat_ofNat (show 0xE0 + c.toNat / 4096 < 256 by omega)
  have ht := toNat_ofNat (show 0x80 + c.toNat / 64 % 64 < 256 by omega)
  have hu := toNat_ofNat (show 0x80 + c.toNat % 64 < 256 by omega)
  refine ⟨?_, ⟨_, _, followers_three (by omega) (by omega), ?_⟩, ?_⟩
  · simp [encodeChar, show ¬ c.toNat < 0x80 by omega, show ¬ c.toNat < 0x800 by omega, hhigh]
  · -- a first byte at an end of its range bounds the byte after it
    refine ⟨?_, ?_, by omega, by omega, trivial⟩ <;> split_ifs <;> omega
  · simp [joinBits, leadBits]
    omega

lemma encodeChar_four (hlow : 0x10000 ≤ c.toNat) :
    Spells c (.ofNat (0xF0 + c.toNat / 262144)) [.ofNat (0x80 + c.toNat / 4096 % 64),
      .ofNat (0x80 + c.toNat / 64 % 64), .ofNat (0x80 + c.toNat % 64)] := by
  have hbounds := toNat_bounds c
  have hb := toNat_ofNat (show 0xF0 + c.toNat / 262144 < 256 by omega)
  have ht := toNat_ofNat (show 0x80 + c.toNat / 4096 % 64 < 256 by omega)
  have hu := toNat_ofNat (show 0x80 + c.toNat / 64 % 64 < 256 by omega)
  have hv := toNat_ofNat (show 0x80 + c.toNat % 64 < 256 by omega)
  refine ⟨?_, ⟨_, _, followers_four (by omega) (by omega), ?_⟩, ?_⟩
  · simp [encodeChar, show ¬ c.toNat < 0x80 by omega, show ¬ c.toNat < 0x800 by omega,
      show ¬ c.toNat < 0x10000 by omega]
  · refine ⟨?_, ?_, by omega, by omega, by omega, by omega, trivial⟩ <;> split_ifs <;> omega
  · simp [joinBits, leadBits]
    omega

lemma exists_spells (c : Char) : ∃ b more, Spells c b more := by
  rcases lt_or_ge c.toNat 0x80 with hone | hone
  · exact ⟨_, _, encodeChar_one hone⟩
  rcases lt_or_ge c.toNat 0x800 with htwo | htwo
  · exact ⟨_, _, encodeChar_two hone htwo⟩
  rcases lt_or_ge c.toNat 0x10000 with hthree | hthree
  · exact ⟨_, _, encodeChar_three htwo hthree⟩
  · exact ⟨_, _, encodeChar_four hthree⟩

lemma encode_cons (c : Char) (text : List Char) :
    encode (c :: text) = encodeChar c ++ encode text :=
  List.flatMap_cons

/-- Bytes that start a written text are decoded to the text they complete. What is left of a
character waits, which does not happen at the end. -/
lemma decodeBlock_encode (h : encode text = block ++ later) {final : Bool}
    (hfinal : final = true → later = []) (position : ℕ) (before : List Char) :
    ∃ found rest unfinished, text = found ++ rest ∧ unfinished ++ later = encode rest ∧
      (final = true → rest = []) ∧
      decodeBlock final position before block = .ok (before.reverse ++ found, unfinished) := by
  induction text generalizing block position before with
  | nil =>
    obtain ⟨rfl, rfl⟩ := List.append_eq_nil_iff.1 h.symm
    refine ⟨[], [], [], rfl, rfl, fun _ => rfl, ?_⟩
    rw [decodeBlock, List.append_nil]
  | cons c text ih =>
    obtain ⟨b, more, hspells⟩ := exists_spells c
    rw [encode_cons, hspells.bytes, List.cons_append] at h
    cases block with
    | nil =>
      refine ⟨[], c :: text, [], rfl, ?_, ?_, ?_⟩
      · rw [List.nil_append, encode_cons, hspells.bytes]
        exact h.symm
      · intro hend
        rw [hfinal hend] at h
        cases h
      · rw [decodeBlock, List.append_nil]
    | cons b' block =>
      rw [List.cons_append] at h
      obtain ⟨rfl, htail⟩ := List.cons.inj h
      by_cases hwhole : more <+: block
      · obtain ⟨rest, rfl⟩ := hwhole
        rw [List.append_assoc, List.append_cancel_left_eq] at htail
        obtain ⟨found, left, unfinished, rfl, hleft, hnone, hdecode⟩ :=
          ih htail (position + (more.length + 1)) (c :: before)
        refine ⟨c :: found, left, unfinished, rfl, hleft, hnone, ?_⟩
        rw [decodeBlock, hspells.front rest]
        dsimp only
        rw [Nat.add_sub_cancel, List.drop_left, hdecode]
        simp
      · -- the block ends within this character, so more bytes follow
        have hpart : block <+: more := by
          have hblock : block <+: more ++ encode text := htail ▸ List.prefix_append _ _
          exact (List.prefix_or_prefix_of_prefix hblock
            (List.prefix_append _ _)).resolve_right hwhole
        have hne : block ≠ more := fun heq => hwhole (heq ▸ List.prefix_rfl)
        have hgoes : final = false := by
          by_contra hend
          rw [hfinal (by simpa using hend), List.append_nil] at htail
          exact hwhole (htail ▸ List.prefix_append _ _)
        refine ⟨[], c :: text, b :: block, rfl, ?_, fun hend => ?_, ?_⟩
        · rw [encode_cons, hspells.bytes, List.cons_append, List.cons_append, htail]
        · cases hgoes.symm.trans hend
        · rw [decodeBlock, hspells.front_part hpart hne, hgoes, List.append_nil]
          rfl

theorem decode_encode (text : List Char) : decode (encode text) = .ok text := by
  obtain ⟨found, rest, unfinished, rfl, hrest, hnone, hdecode⟩ :=
    decodeBlock_encode (List.append_nil (encode text)).symm (fun _ => rfl) 0 []
  obtain rfl := hnone rfl
  rw [decode, hdecode, List.append_nil]
  rfl

lemma decodeBlocks_encode (size : ℕ) {pending bytes : List UInt8}
    (h : encode text = pending ++ bytes) : decodeBlocks size pending bytes = .ok text := by
  fun_induction decodeBlocks size pending bytes generalizing text with
  | case1 pending =>
    rw [← List.append_nil pending, ← h, decode_encode]
  | case2 pending b rest ih =>
    have hcut : encode text = (pending ++ b :: rest.take size) ++ rest.drop size := by
      rw [h, List.append_assoc, List.cons_append, List.take_append_drop]
    obtain ⟨found, left, unfinished, rfl, hleft, -, hdecode⟩ :=
      decodeBlock_encode hcut (fun hend : false = true => nomatch hend) 0 []
    rw [hdecode]
    dsimp only [bind, Except.bind]
    rw [ih unfinished hleft.symm]
    rfl

/-- Reading in blocks gives back what was written. -/
theorem decodeStream_encode (text : List Char) : decodeStream (encode text) = .ok text :=
  decodeBlocks_encode 8191 (List.nil_append _).symm

end PostfixCalculator.Text
