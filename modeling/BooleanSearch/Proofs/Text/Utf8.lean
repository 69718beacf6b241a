import BooleanSearch.Text.Utf8

/-!
This module contains the theorem that strict reading gives back the text that was encoded and accepts
nothing else. Every length of an encoding is a case of its own, and the first chunk of what is read is
the character written.
-/

namespace BooleanSearch.Utf8

def continuation (n : Nat) : UInt8 := UInt8.ofNat (0x80 + n % 64)

theorem toNat_continuation (n : Nat) : (continuation n).toNat = 0x80 + n % 64 := by
  unfold continuation
  rw [UInt8.toNat_ofNat']
  omega

theorem toNat_lead {base bits : Nat} (h : base + bits < 256) :
    (UInt8.ofNat (base + bits)).toNat = base + bits := by
  rw [UInt8.toNat_ofNat']
  omega

theorem between_iff {byte low high : UInt8} :
    (decide (low ≤ byte) && decide (byte < high)) = true ↔
      low.toNat ≤ byte.toNat ∧ byte.toNat < high.toNat := by
  simp only [Bool.and_eq_true, decide_eq_true_eq, UInt8.le_iff_toNat_le, UInt8.lt_iff_toNat_lt]

theorem between_eq_false {byte low high : UInt8}
    (h : byte.toNat < low.toNat ∨ high.toNat ≤ byte.toNat) :
    (decide (low ≤ byte) && decide (byte < high)) = false := by
  simp only [Bool.and_eq_false_iff, decide_eq_false_iff_not, UInt8.le_iff_toNat_le,
    UInt8.lt_iff_toNat_lt]
  omega

theorem isContinuation_continuation (n : Nat) : isContinuation (continuation n) = true := by
  apply between_iff.mpr
  simp only [toNat_continuation, UInt8.reduceToNat]
  omega

theorem extend_continuation (bits n : Nat) :
    extend bits (continuation n) = 64 * bits + n % 64 := by
  unfold extend
  rw [toNat_continuation]
  omega

theorem firstChunk_one {code : Nat} (h : code < 0x80) (rest : Bytes) :
    firstChunk (UInt8.ofNat code) rest = (some (Char.ofNat code), 0) := by
  have hlead : (UInt8.ofNat code).toNat = code := by
    rw [UInt8.toNat_ofNat']
    omega
  have hlt : UInt8.ofNat code < 0x80 := by
    rw [UInt8.lt_iff_toNat_lt, hlead]
    exact h
  unfold firstChunk
  rw [if_pos hlt, hlead]

theorem firstChunk_two {code : Nat} (hlow : 0x80 ≤ code) (hhigh : code < 0x800) (rest : Bytes) :
    firstChunk (UInt8.ofNat (0xC0 + code / 64)) (continuation code :: rest) =
      (some (Char.ofNat code), 1) := by
  have hlead : (UInt8.ofNat (0xC0 + code / 64)).toNat = 0xC0 + code / 64 :=
    toNat_lead (by omega)
  have hcode : 64 * ((0xC0 + code / 64) % 32) + code % 64 = code := by omega
  unfold firstChunk
  generalize UInt8.ofNat (0xC0 + code / 64) = lead at hlead
  have hone : ¬ lead < 0x80 := by
    simp only [UInt8.lt_iff_toNat_lt, hlead, UInt8.reduceToNat]
    omega
  have htwo : (decide (0xC2 ≤ lead) && decide (lead < 0xE0)) = true := by
    apply between_iff.mpr
    simp only [hlead, UInt8.reduceToNat]
    omega
  simp only [hone, htwo, isContinuation_continuation, ↓reduceIte]
  rw [extend_continuation, hlead, hcode]

theorem firstChunk_three {code : Nat} (hlow : 0x800 ≤ code) (hhigh : code < 0x10000)
    (hvalid : code < 0xD800 ∨ 0xDFFF < code) (rest : Bytes) :
    firstChunk (UInt8.ofNat (0xE0 + code / 4096))
        (continuation (code / 64) :: continuation code :: rest) =
      (some (Char.ofNat code), 2) := by
  have hlead : (UInt8.ofNat (0xE0 + code / 4096)).toNat = 0xE0 + code / 4096 :=
    toNat_lead (by omega)
  have hcode : 64 * (64 * ((0xE0 + code / 4096) % 16) + code / 64 % 64) + code % 64 = code := by
    omega
  unfold firstChunk
  generalize UInt8.ofNat (0xE0 + code / 4096) = lead at hlead
  have hone : ¬ lead < 0x80 := by
    simp only [UInt8.lt_iff_toNat_lt, hlead, UInt8.reduceToNat]
    omega
  have htwo : (decide (0xC2 ≤ lead) && decide (lead < 0xE0)) = false := by
    apply between_eq_false
    simp only [hlead, UInt8.reduceToNat]
    omega
  have hthree : (decide (0xE0 ≤ lead) && decide (lead < 0xF0)) = true := by
    apply between_iff.mpr
    simp only [hlead, UInt8.reduceToNat]
    omega
  have hfollow : mayFollow lead (continuation (code / 64)) = true := by
    simp only [mayFollow, ← UInt8.toNat_inj, hlead, UInt8.reduceToNat]
    split
    · apply between_iff.mpr
      simp only [toNat_continuation, UInt8.reduceToNat]
      omega
    · split
      · apply between_iff.mpr
        simp only [toNat_continuation, UInt8.reduceToNat]
        omega
      · rw [if_neg (by omega), if_neg (by omega)]
        exact isContinuation_continuation (code / 64)
  simp only [hone, htwo, hthree, hfollow, isContinuation_continuation, ↓reduceIte,
    Bool.false_eq_true]
  rw [extend_continuation, extend_continuation, hlead, hcode]

theorem firstChunk_four {code : Nat} (hlow : 0x10000 ≤ code) (hhigh : code < 0x110000)
    (rest : Bytes) :
    firstChunk (UInt8.ofNat (0xF0 + code / 262144))
        (continuation (code / 4096) :: continuation (code / 64) :: continuation code :: rest) =
      (some (Char.ofNat code), 3) := by
  have hlead : (UInt8.ofNat (0xF0 + code / 262144)).toNat = 0xF0 + code / 262144 :=
    toNat_lead (by omega)
  have hcode : 64 * (64 * (64 * ((0xF0 + code / 262144) % 8) + code / 4096 % 64) +
      code / 64 % 64) + code % 64 = code := by
    omega
  unfold firstChunk
  -- All cases of the definition ask for the number of the leading byte only.
  generalize UInt8.ofNat (0xF0 + code / 262144) = lead at hlead
  have hone : ¬ lead < 0x80 := by
    simp only [UInt8.lt_iff_toNat_lt, hlead, UInt8.reduceToNat]
    omega
  have htwo : (decide (0xC2 ≤ lead) && decide (lead < 0xE0)) = false := by
    apply between_eq_false
    simp only [hlead, UInt8.reduceToNat]
    omega
  have hthree : (decide (0xE0 ≤ lead) && decide (lead < 0xF0)) = false := by
    apply between_eq_false
    simp only [hlead, UInt8.reduceToNat]
    omega
  have hfour : (decide (0xF0 ≤ lead) && decide (lead < 0xF5)) = true := by
    apply between_iff.mpr
    simp only [hlead, UInt8.reduceToNat]
    omega
  have hfollow : mayFollow lead (continuation (code / 4096)) = true := by
    simp only [mayFollow, ← UInt8.toNat_inj, hlead, UInt8.reduceToNat]
    rw [if_neg (by omega), if_neg (by omega)]
    split
    · apply between_iff.mpr
      simp only [toNat_continuation, UInt8.reduceToNat]
      omega
    · split
      · apply between_iff.mpr
        simp only [toNat_continuation, UInt8.reduceToNat]
        omega
      · exact isContinuation_continuation (code / 4096)
  simp only [hone, htwo, hthree, hfour, hfollow, isContinuation_continuation, ↓reduceIte,
    Bool.false_eq_true]
  rw [extend_continuation, extend_continuation, extend_continuation, hlead, hcode]

theorem toNat_valid (c : Char) :
    c.toNat < 0xD800 ∨ (0xDFFF < c.toNat ∧ c.toNat < 0x110000) := c.valid

theorem encodeChar_one {c : Char} (h : c.toNat < 0x80) : encodeChar c = [UInt8.ofNat c.toNat] :=
  if_pos h

theorem encodeChar_two {c : Char} (hlow : 0x80 ≤ c.toNat) (hhigh : c.toNat < 0x800) :
    encodeChar c = [UInt8.ofNat (0xC0 + c.toNat / 64), continuation c.toNat] := by
  unfold encodeChar continuation
  dsimp only
  rw [if_neg (by omega), if_pos hhigh]

theorem encodeChar_three {c : Char} (hlow : 0x800 ≤ c.toNat) (hhigh : c.toNat < 0x10000) :
    encodeChar c = [UInt8.ofNat (0xE0 + c.toNat / 4096), continuation (c.toNat / 64),
      continuation c.toNat] := by
  unfold encodeChar continuation
  dsimp only
  rw [if_neg (by omega), if_neg (by omega), if_pos hhigh]

theorem encodeChar_four {c : Char} (hlow : 0x10000 ≤ c.toNat) :
    encodeChar c = [UInt8.ofNat (0xF0 + c.toNat / 262144), continuation (c.toNat / 4096),
      continuation (c.toNat / 64), continuation c.toNat] := by
  unfold encodeChar continuation
  dsimp only
  rw [if_neg (by omega), if_neg (by omega), if_neg (by omega)]

theorem chunks_encodeChar (c : Char) (rest : Bytes) :
    chunks (encodeChar c ++ rest) = some c :: chunks rest := by
  have hvalid := toNat_valid c
  have hofNat : Char.ofNat c.toNat = c := Char.ofNat_toNat c
  unfold chunks
  by_cases hone : c.toNat < 0x80
  · rw [encodeChar_one hone]
    simp only [List.cons_append, List.nil_append, chunksAfter, firstChunk_one hone, hofNat]
  · by_cases htwo : c.toNat < 0x800
    · rw [encodeChar_two (by omega) htwo]
      simp only [List.cons_append, List.nil_append, chunksAfter, firstChunk_two (by omega) htwo,
        hofNat]
    · by_cases hthree : c.toNat < 0x10000
      · rw [encodeChar_three (by omega) hthree]
        simp only [List.cons_append, List.nil_append, chunksAfter,
          firstChunk_three (by omega) hthree (by omega), hofNat]
      · rw [encodeChar_four (by omega)]
        simp only [List.cons_append, List.nil_append, chunksAfter,
          @firstChunk_four c.toNat (by omega) (by omega), hofNat]

theorem chunks_encode (text : Text) : chunks (encode text) = text.map some := by
  induction text with
  | nil => rfl
  | cons c text ih =>
    rw [encode_cons, chunks_encodeChar, ih]
    rfl

theorem toNat_ofNat {code : Nat} (h : code < 0xD800 ∨ (0xDFFF < code ∧ code < 0x110000)) :
    (Char.ofNat code).toNat = code := by
  have hvalid : code.isValidChar := h
  rw [Char.ofNat, dif_pos hvalid]
  rfl

theorem isContinuation_iff {byte : UInt8} :
    isContinuation byte = true ↔ 0x80 ≤ byte.toNat ∧ byte.toNat < 0xC0 := between_iff

theorem continuation_eq {byte : UInt8} {n : Nat} (h : isContinuation byte = true)
    (hn : n % 64 = byte.toNat % 64) : continuation n = byte := by
  rw [isContinuation_iff] at h
  rw [← UInt8.toNat_inj, toNat_continuation]
  omega

theorem lead_eq (byte : UInt8) {n : Nat} (h : n = byte.toNat) : UInt8.ofNat n = byte := by
  rw [h, UInt8.ofNat_toNat]

theorem toNat_of_mayFollow {lead byte : UInt8} (h : mayFollow lead byte = true) :
    isContinuation byte = true ∧ (lead.toNat = 0xE0 → 0xA0 ≤ byte.toNat) ∧
      (lead.toNat = 0xED → byte.toNat < 0xA0) ∧ (lead.toNat = 0xF0 → 0x90 ≤ byte.toNat) ∧
      (lead.toNat = 0xF4 → byte.toNat < 0x90) := by
  -- What may follow a leading byte excludes code points with a shorter encoding, surrogates,
  -- and numbers that are no code points.
  simp only [mayFollow, ← UInt8.toNat_inj, UInt8.reduceToNat] at h
  repeat' split at h
  all_goals
    simp only [isContinuation_iff, between_iff, UInt8.reduceToNat] at h ⊢
    omega

theorem encodeChar_of_two {lead second : UInt8} (hlead : 0xC2 ≤ lead.toNat ∧ lead.toNat < 0xE0)
    (hsecond : isContinuation second = true) :
    encodeChar (Char.ofNat (extend (lead.toNat % 32) second)) = [lead, second] := by
  have hcode : (Char.ofNat (extend (lead.toNat % 32) second)).toNat =
      64 * (lead.toNat % 32) + second.toNat % 64 := toNat_ofNat (by unfold extend; omega)
  rw [encodeChar_two (by omega) (by omega), hcode, lead_eq lead (by omega),
    continuation_eq hsecond (by omega)]

theorem encodeChar_of_three {lead second third : UInt8}
    (hlead : 0xE0 ≤ lead.toNat ∧ lead.toNat < 0xF0) (hsecond : mayFollow lead second = true)
    (hthird : isContinuation third = true) :
    encodeChar (Char.ofNat (extend (extend (lead.toNat % 16) second) third)) =
      [lead, second, third] := by
  obtain ⟨hsecond, hlow, hhigh, -, -⟩ := toNat_of_mayFollow hsecond
  have hrange := isContinuation_iff.mp hsecond
  have hcode : (Char.ofNat (extend (extend (lead.toNat % 16) second) third)).toNat =
      64 * (64 * (lead.toNat % 16) + second.toNat % 64) + third.toNat % 64 :=
    toNat_ofNat (by unfold extend; omega)
  rw [encodeChar_three (by omega) (by omega), hcode, lead_eq lead (by omega),
    continuation_eq hsecond (by omega), continuation_eq hthird (by omega)]

theorem encodeChar_of_four {lead second third fourth : UInt8}
    (hlead : 0xF0 ≤ lead.toNat ∧ lead.toNat < 0xF5) (hsecond : mayFollow lead second = true)
    (hthird : isContinuation third = true) (hfourth : isContinuation fourth = true) :
    encodeChar (Char.ofNat (extend (extend (extend (lead.toNat % 8) second) third) fourth)) =
      [lead, second, third, fourth] := by
  obtain ⟨hsecond, -, -, hlow, hhigh⟩ := toNat_of_mayFollow hsecond
  have hrange := isContinuation_iff.mp hsecond
  have hcode : (Char.ofNat (extend (extend (extend (lead.toNat % 8) second) third) fourth)).toNat =
      64 * (64 * (64 * (lead.toNat % 8) + second.toNat % 64) + third.toNat % 64) +
        fourth.toNat % 64 :=
    toNat_ofNat (by unfold extend; omega)
  rw [encodeChar_four (by omega), hcode, lead_eq lead (by omega),
    continuation_eq hsecond (by omega), continuation_eq hthird (by omega),
    continuation_eq hfourth (by omega)]

theorem eq_encodeChar_append {lead : UInt8} {rest : Bytes} {c : Char} {length : Nat}
    (h : firstChunk lead rest = (some c, length)) :
    lead :: rest = encodeChar c ++ rest.drop length := by
  revert h
  fun_cases firstChunk lead rest
  case case1 hlead =>
    rintro ⟨⟩
    have hcode : (Char.ofNat lead.toNat).toNat = lead.toNat :=
      toNat_ofNat (.inl (Nat.lt_trans (UInt8.lt_iff_toNat_lt.mp hlead) (by decide)))
    rw [encodeChar_one (by rw [hcode]; exact UInt8.lt_iff_toNat_lt.mp hlead), hcode,
      UInt8.ofNat_toNat]
    rfl
  case case2 _ hlead second rest hsecond =>
    rintro ⟨⟩
    rw [encodeChar_of_two (between_iff.mp hlead) hsecond]
    rfl
  case case5 _ _ hlead second hsecond third rest hthird =>
    rintro ⟨⟩
    rw [encodeChar_of_three (between_iff.mp hlead) hsecond hthird]
    rfl
  case case10 _ _ _ hlead second hsecond third hthird fourth rest hfourth bits =>
    rintro ⟨⟩
    rw [encodeChar_of_four (between_iff.mp hlead) hsecond hthird hfourth]
    rfl
  -- No other chunk is a character.
  all_goals exact nofun

theorem chunksAfter_eq (skip : Nat) (bytes : Bytes) :
    chunksAfter skip bytes = chunks (bytes.drop skip) := by
  induction bytes generalizing skip with
  | nil => cases skip <;> rfl
  | cons lead rest ih =>
    cases skip with
    | zero => rfl
    | succ skip => exact ih skip

theorem eq_encode_of_chunks {bytes : Bytes} {text : Text} (h : chunks bytes = text.map some) :
    bytes = encode text := by
  induction text generalizing bytes with
  | nil =>
    cases bytes with
    | nil => rfl
    | cons lead rest => cases h
  | cons c text ih =>
    cases bytes with
    | nil => cases h
    | cons lead rest =>
      rw [chunks, chunksAfter, List.map_cons, List.cons.injEq, chunksAfter_eq] at h
      rw [eq_encodeChar_append (Prod.ext h.1 rfl), ih h.2, encode_cons]

theorem mapM_id_eq_some_iff {chunks : List (Option Char)} {text : Text} :
    chunks.mapM id = some text ↔ chunks = text.map some := by
  induction chunks generalizing text with
  | nil => cases text <;> simp
  | cons chunk chunks ih =>
    rw [List.mapM_cons, Option.bind_eq_bind, Option.bind_eq_some_iff]
    cases text with
    | nil => simp [Option.bind_eq_some_iff]
    | cons c text => simp [Option.bind_eq_some_iff, ih]

theorem decode?_eq_some_iff {bytes : Bytes} {text : Text} :
    decode? bytes = some text ↔ bytes = encode text := by
  unfold decode?
  rw [mapM_id_eq_some_iff]
  constructor
  · exact eq_encode_of_chunks
  · rintro rfl
    exact chunks_encode text

theorem decodeLossy_encode (text : Text) : decodeLossy (encode text) = text := by
  unfold decodeLossy
  rw [chunks_encode, List.map_map]
  exact List.map_id text

@[simp]
theorem decode?_encode (text : Text) : decode? (encode text) = some text :=
  decode?_eq_some_iff.mpr rfl

theorem encode_inj {s t : Text} : encode s = encode t ↔ s = t := by
  constructor
  · intro h
    have hdecode := decode?_encode s
    rw [h, decode?_encode, Option.some.injEq] at hdecode
    exact hdecode.symm
  · apply congrArg

theorem lookup_map_encode {α β : Type} (f : α → β) (entries : List (Text × α)) (key : Text) :
    (entries.map fun entry => (encode entry.1, f entry.2)).lookup (encode key) =
      (entries.lookup key).map f := by
  induction entries with
  | nil => rfl
  | cons entry entries ih =>
    have hkey : (encode key == encode entry.1) = (key == entry.1) := by
      rw [Bool.eq_iff_iff, beq_iff_eq, beq_iff_eq, encode_inj]
    rw [List.map_cons, List.lookup_cons, List.lookup_cons, hkey, ih]
    cases key == entry.1 <;> rfl

theorem byteLength_of_ascii {text : Text} (h : ∀ c ∈ text, c.toNat < 0x80) :
    byteLength text = text.length := by
  induction text with
  | nil => rfl
  | cons c text ih =>
    rw [List.forall_mem_cons] at h
    have hone : encodeChar c = [UInt8.ofNat c.toNat] := if_pos h.1
    have hrest : (encode text).length = text.length := ih h.2
    unfold byteLength
    rw [encode_cons, List.length_append, hone, hrest, List.length_singleton, List.length_cons,
      Nat.add_comm]

end BooleanSearch.Utf8
