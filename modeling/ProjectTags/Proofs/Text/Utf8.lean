import ProjectTags.Text.Utf8

/-!
# Reading what was written in UTF-8

The bytes of a text are read as that text. A character is read off the bytes that it is written
with, whatever follows them: its lead byte tells how many bytes follow, and no code that is written
with several bytes is out of the range of the first of them.
-/

namespace ProjectTags.Utf8

theorem toNat_ofNat {n : Nat} (small : n < 256) : (UInt8.ofNat n).toNat = n := by
  simp [Nat.mod_eq_of_lt small]

theorem follow_cons {following least greatest code byte : Nat} (atLeast : least ≤ byte)
    (atMost : byte ≤ greatest) (small : byte < 256) (rest : Bytes) :
    follow (following + 1) least greatest code (UInt8.ofNat byte :: rest) =
      follow following 0x80 0xBF (64 * code + byte % 64) rest := by
  rw [follow, toNat_ofNat small, if_pos (by simp [atLeast, atMost])]

theorem scan_ascii {code : Nat} (small : code < 0x80) (rest : Bytes) :
    scan (UInt8.ofNat code :: rest) = some (Char.ofNat code) :: scan rest := by
  rw [scan, toNat_ofNat (by omega), if_pos small]

/-- A character is read off a lead byte and the bytes that follow it. -/
theorem scan_lead {lead following least greatest code : Nat} {bytes rest : Bytes}
    (row : leadRow? lead = some (following, least, greatest)) (small : lead < 256)
    (high : 0x80 ≤ lead)
    (followed : follow following least greatest (leadBits lead following) bytes =
      (some code, rest)) :
    scan (UInt8.ofNat lead :: bytes) = some (Char.ofNat code) :: scan rest := by
  rw [scan, toNat_ofNat small, if_neg (by omega), row]
  simp [followed]

theorem leadRow?_two {high : Nat} (least : 2 ≤ high) (greatest : high < 32) :
    leadRow? (0xC0 + high) = some (1, 0x80, 0xBF) := by
  rw [leadRow?, if_neg (by omega), if_pos (by omega)]

/-- The row of a character of three bytes, which no surrogate is. -/
theorem leadRow?_three {code : Nat} (least : 0x800 ≤ code) (greatest : code < 0x10000)
    (valid : code < 0xD800 ∨ 0xDFFF < code) :
    ∃ low high, leadRow? (0xE0 + code / 4096) = some (2, low, high) ∧
      low ≤ 0x80 + code / 64 % 64 ∧ 0x80 + code / 64 % 64 ≤ high := by
  by_cases first : code / 4096 = 0
  · exact ⟨0xA0, 0xBF, by simp [leadRow?, first], by omega, by omega⟩
  · by_cases surrogates : code / 4096 = 13
    · exact ⟨0x80, 0x9F, by simp [leadRow?, surrogates], by omega, by omega⟩
    · refine ⟨0x80, 0xBF, ?_, by omega, by omega⟩
      rw [leadRow?, if_neg (by omega), if_neg (by omega), if_neg (by omega), if_neg (by omega),
        if_pos (by omega)]

theorem leadRow?_four {code : Nat} (least : 0x10000 ≤ code) (greatest : code < 0x110000) :
    ∃ low high, leadRow? (0xF0 + code / 262144) = some (3, low, high) ∧
      low ≤ 0x80 + code / 4096 % 64 ∧ 0x80 + code / 4096 % 64 ≤ high := by
  by_cases first : code / 262144 = 0
  · exact ⟨0x90, 0xBF, by simp [leadRow?, first], by omega, by omega⟩
  · by_cases last : code / 262144 = 4
    · exact ⟨0x80, 0x8F, by simp [leadRow?, last], by omega, by omega⟩
    · refine ⟨0x80, 0xBF, ?_, by omega, by omega⟩
      rw [leadRow?, if_neg (by omega), if_neg (by omega), if_neg (by omega), if_neg (by omega),
        if_neg (by omega), if_neg (by omega), if_pos (by omega)]

theorem valid_toNat (c : Char) :
    (c.toNat < 0xD800 ∨ 0xDFFF < c.toNat) ∧ c.toNat < 0x110000 := by
  have valid := c.valid
  simp only [UInt32.isValidChar, Nat.isValidChar] at valid
  change (c.val.toNat < 0xD800 ∨ 0xDFFF < c.val.toNat) ∧ c.val.toNat < 0x110000
  omega

theorem scan_encodeChar_append (c : Char) (rest : Bytes) :
    scan (encodeChar c ++ rest) = some c :: scan rest := by
  rcases valid_toNat c with ⟨valid, greatest⟩
  have back : Char.ofNat c.toNat = c := Char.ofNat_toNat c
  rw [encodeChar]
  generalize c.toNat = code at valid greatest back
  subst back
  -- One case for each number of bytes.
  split
  · next one => rw [List.singleton_append, scan_ascii one]
  · next several =>
      split
      · next two =>
          have row : leadRow? (0xC0 + code / 64) = some (1, 0x80, 0xBF) :=
            leadRow?_two (by omega) (by omega)
          simp only [List.cons_append, List.nil_append]
          apply scan_lead row (by omega) (by omega)
          rw [follow_cons (by omega) (by omega) (by omega), follow]
          congr 2
          simp only [leadBits, if_true]
          omega
      · next more =>
          split
          · next three =>
              rcases leadRow?_three (by omega) three valid with ⟨low, high, row, atLeast, atMost⟩
              simp only [List.cons_append, List.nil_append]
              apply scan_lead row (by omega) (by omega)
              rw [follow_cons atLeast atMost (by omega),
                follow_cons (by omega) (by omega) (by omega), follow]
              congr 2
              simp only [leadBits, Nat.reduceEqDiff, if_false, if_true]
              omega
          · next four =>
              rcases leadRow?_four (by omega) greatest with ⟨low, high, row, atLeast, atMost⟩
              simp only [List.cons_append, List.nil_append]
              apply scan_lead row (by omega) (by omega)
              rw [follow_cons atLeast atMost (by omega),
                follow_cons (by omega) (by omega) (by omega),
                follow_cons (by omega) (by omega) (by omega), follow]
              congr 2
              simp only [leadBits, Nat.reduceEqDiff, if_false]
              omega

theorem scan_encode (text : Text) : scan (encode text) = text.map some := by
  induction text with
  | nil => simp [encode, scan]
  | cons c rest ih =>
      rw [encode, List.flatMap_cons, scan_encodeChar_append, List.map_cons]
      rw [encode] at ih
      rw [ih]

@[simp]
theorem decode?_encode (text : Text) : decode? (encode text) = some text := by
  rw [decode?, scan_encode]
  induction text with
  | nil => rfl
  | cons c rest ih => simp [List.mapM_cons, ih]

@[simp]
theorem decodeLossy_encode (text : Text) : decodeLossy (encode text) = text := by
  rw [decodeLossy, scan_encode, List.map_map]
  exact List.map_id text

@[simp]
theorem encode_append (first second : Text) :
    encode (first ++ second) = encode first ++ encode second := by
  simp [encode]

theorem encodeChar_ne_nil (c : Char) : encodeChar c ≠ [] := by
  rw [encodeChar]
  split
  · simp
  · split
    · simp
    · split <;> simp

/-- Only characters of one byte are written with a byte below `0x80`. -/
theorem eq_of_small_mem_encodeChar {c : Char} {byte : UInt8} (mem : byte ∈ encodeChar c)
    (small : byte.toNat < 0x80) : c.toNat = byte.toNat := by
  have greatest := (valid_toNat c).2
  have high : ∀ n, 0x80 ≤ n → n < 256 → byte ≠ UInt8.ofNat n := by
    rintro n atLeast atMost rfl
    rw [toNat_ofNat atMost] at small
    omega
  rw [encodeChar] at mem
  split at mem
  · next one =>
      rw [List.mem_singleton.mp mem, toNat_ofNat (by omega)]
  · next several =>
      exfalso
      split at mem
      · simp only [List.mem_cons, List.not_mem_nil, or_false] at mem
        rcases mem with lead | last
        · exact high _ (by omega) (by omega) lead
        · exact high _ (by omega) (by omega) last
      · split at mem
        · simp only [List.mem_cons, List.not_mem_nil, or_false] at mem
          rcases mem with lead | second | last
          · exact high _ (by omega) (by omega) lead
          · exact high _ (by omega) (by omega) second
          · exact high _ (by omega) (by omega) last
        · simp only [List.mem_cons, List.not_mem_nil, or_false] at mem
          rcases mem with lead | second | third | last
          · exact high _ (by omega) (by omega) lead
          · exact high _ (by omega) (by omega) second
          · exact high _ (by omega) (by omega) third
          · exact high _ (by omega) (by omega) last

end ProjectTags.Utf8
