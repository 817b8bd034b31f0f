import GrowthGrammar.Text.Utf8
import Mathlib.Data.List.Basic
import Mathlib.Tactic.SplitIfs

/-!
# Encoding and decoding UTF-8

Main statement: the bytes of a string are decoded to its characters (`decode_toUTF8`).  A character
is encoded in one to four bytes by the size of its code point; the first byte of each case says how
many bytes follow and in which range the next one lies.
-/

namespace GrowthGrammar.Text

/-! ## Bytes of a string -/

theorem toList_loop (bytes : ByteArray) (i : ℕ) (done : List UInt8) :
    ByteArray.toList.loop bytes i done = done.reverse ++ bytes.data.toList.drop i := by
  fun_induction ByteArray.toList.loop bytes i done with
  | case1 i done h ih =>
    have hi : i < bytes.data.toList.length := by simpa using h
    rw [ih, List.drop_eq_getElem_cons hi]
    simp [ByteArray.get!, h]
  | case2 i done h =>
    rw [List.drop_eq_nil_of_le (by simpa using Nat.le_of_not_lt h)]
    simp

theorem toList_toUTF8 (s : String) :
    s.toUTF8.toList = s.toList.flatMap String.utf8EncodeChar := by
  have hbytes : s.toUTF8 = s.toList.utf8Encode := by
    conv_lhs => rw [← String.ofList_toList (s := s)]
    exact String.toByteArray_ofList
  rw [hbytes, ByteArray.toList, toList_loop]
  simp [List.utf8Encode]

/-! ## One sequence -/

theorem continueWith_zero (least most bits : ℕ) (r : List UInt8) :
    continueWith 0 least most bits r = (0, bits, r) := by
  cases r <;> rfl

theorem continueWith_succ {least most n : ℕ} (hleast : least ≤ n) (hmost : n ≤ most)
    (hbyte : most ≤ 0xBF) (k bits : ℕ) (r : List UInt8) :
    continueWith (k + 1) least most bits (UInt8.ofNat n :: r) =
      continueWith k 0x80 0xBF (bits * 64 + (n - 0x80)) r := by
  have hn : (UInt8.ofNat n).toNat = n := by
    rw [UInt8.toNat_ofNat']
    omega
  rw [continueWith, hn, if_pos ⟨hleast, hmost⟩]

/-- A first byte and the bytes that continue it are decoded to the character of their code point. -/
theorem decodeFrom_sequence {n code : ℕ} {l : Lead} {tail r : List UInt8} (hn : n < 256)
    (hlead : lead? n = some l)
    (htail : continueWith l.follow l.least l.most l.bits (tail ++ r) = (0, code, r))
    (fuel position : ℕ) :
    decodeFrom (fuel + 1) position (UInt8.ofNat n :: (tail ++ r)) =
      (decodeFrom fuel (position + l.follow + 1) r).map (Char.ofNat code :: ·) := by
  have hbyte : (UInt8.ofNat n).toNat = n := by
    rw [UInt8.toNat_ofNat']
    omega
  rw [decodeFrom, hbyte, hlead]
  dsimp only
  rw [htail]
  rfl

section Sequences

variable {v : ℕ} (fuel position : ℕ) (r : List UInt8)

theorem decodeFrom_one (h : v ≤ 127) :
    decodeFrom (fuel + 1) position (UInt8.ofNat v :: r) =
      (decodeFrom fuel (position + 1) r).map (Char.ofNat v :: ·) := by
  have hlead : lead? v = some ⟨0, 0x80, 0xBF, v⟩ := by
    rw [lead?, if_pos (by omega)]
  have htail : continueWith 0 0x80 0xBF v ([] ++ r) = (0, v, r) := continueWith_zero _ _ _ _
  exact decodeFrom_sequence (by omega) hlead htail fuel position

theorem decodeFrom_two (hlow : 127 < v) (hhigh : v ≤ 2047) :
    decodeFrom (fuel + 1) position
        (UInt8.ofNat (v / 64 % 32 + 192) :: UInt8.ofNat (v % 64 + 128) :: r) =
      (decodeFrom fuel (position + 2) r).map (Char.ofNat v :: ·) := by
  have hlead : lead? (v / 64 % 32 + 192) = some ⟨1, 0x80, 0xBF, v / 64 % 32 + 192 - 0xC0⟩ := by
    rw [lead?, if_neg (by omega), if_neg (by omega), if_pos (by omega)]
  have hcode : (v / 64 % 32 + 192 - 0xC0) * 64 + (v % 64 + 128 - 0x80) = v := by
    omega
  have htail : continueWith 1 0x80 0xBF (v / 64 % 32 + 192 - 0xC0)
      ([UInt8.ofNat (v % 64 + 128)] ++ r) = (0, v, r) := by
    rw [List.singleton_append, continueWith_succ (by omega) (by omega) (by omega),
      continueWith_zero, hcode]
  exact decodeFrom_sequence (by omega) hlead htail fuel position

-- Only surrogates would put the second byte out of the range that the first one `0xED` leaves it.
theorem decodeFrom_three (hlow : 2047 < v) (hhigh : v ≤ 65535)
    (hvalid : v < 0xD800 ∨ 0xDFFF < v) :
    decodeFrom (fuel + 1) position (UInt8.ofNat (v / 4096 % 16 + 224) ::
        UInt8.ofNat (v / 64 % 64 + 128) :: UInt8.ofNat (v % 64 + 128) :: r) =
      (decodeFrom fuel (position + 3) r).map (Char.ofNat v :: ·) := by
  have hlead : lead? (v / 4096 % 16 + 224) =
      some ⟨2, if v / 4096 % 16 + 224 = 0xE0 then 0xA0 else 0x80,
        if v / 4096 % 16 + 224 = 0xED then 0x9F else 0xBF, v / 4096 % 16 + 224 - 0xE0⟩ := by
    rw [lead?, if_neg (by omega), if_neg (by omega), if_neg (by omega), if_pos (by omega)]
  have hcode : ((v / 4096 % 16 + 224 - 0xE0) * 64 + (v / 64 % 64 + 128 - 0x80)) * 64 +
      (v % 64 + 128 - 0x80) = v := by
    omega
  have htail : continueWith 2 (if v / 4096 % 16 + 224 = 0xE0 then 0xA0 else 0x80)
      (if v / 4096 % 16 + 224 = 0xED then 0x9F else 0xBF) (v / 4096 % 16 + 224 - 0xE0)
      ([UInt8.ofNat (v / 64 % 64 + 128), UInt8.ofNat (v % 64 + 128)] ++ r) = (0, v, r) := by
    rw [List.cons_append, List.singleton_append,
      continueWith_succ (by split_ifs <;> omega) (by split_ifs <;> omega)
        (by split_ifs <;> omega),
      continueWith_succ (by omega) (by omega) (by omega), continueWith_zero, hcode]
  exact decodeFrom_sequence (by omega) hlead htail fuel position

theorem decodeFrom_four (hlow : 65535 < v) (hhigh : v < 0x110000) :
    decodeFrom (fuel + 1) position (UInt8.ofNat (v / 262144 % 8 + 240) ::
        UInt8.ofNat (v / 4096 % 64 + 128) :: UInt8.ofNat (v / 64 % 64 + 128) ::
          UInt8.ofNat (v % 64 + 128) :: r) =
      (decodeFrom fuel (position + 4) r).map (Char.ofNat v :: ·) := by
  have hlead : lead? (v / 262144 % 8 + 240) =
      some ⟨3, if v / 262144 % 8 + 240 = 0xF0 then 0x90 else 0x80,
        if v / 262144 % 8 + 240 = 0xF4 then 0x8F else 0xBF, v / 262144 % 8 + 240 - 0xF0⟩ := by
    rw [lead?, if_neg (by omega), if_neg (by omega), if_neg (by omega), if_neg (by omega),
      if_pos (by omega)]
  have hcode : (((v / 262144 % 8 + 240 - 0xF0) * 64 + (v / 4096 % 64 + 128 - 0x80)) * 64 +
      (v / 64 % 64 + 128 - 0x80)) * 64 + (v % 64 + 128 - 0x80) = v := by
    omega
  have htail : continueWith 3 (if v / 262144 % 8 + 240 = 0xF0 then 0x90 else 0x80)
      (if v / 262144 % 8 + 240 = 0xF4 then 0x8F else 0xBF) (v / 262144 % 8 + 240 - 0xF0)
      ([UInt8.ofNat (v / 4096 % 64 + 128), UInt8.ofNat (v / 64 % 64 + 128),
        UInt8.ofNat (v % 64 + 128)] ++ r) = (0, v, r) := by
    rw [List.cons_append, List.cons_append, List.singleton_append,
      continueWith_succ (by split_ifs <;> omega) (by split_ifs <;> omega)
        (by split_ifs <;> omega),
      continueWith_succ (by omega) (by omega) (by omega),
      continueWith_succ (by omega) (by omega) (by omega), continueWith_zero, hcode]
  exact decodeFrom_sequence (by omega) hlead htail fuel position

/-- The bytes of a character are decoded to the character. -/
theorem exists_decodeFrom_encodeChar (c : Char) :
    ∃ next, decodeFrom (fuel + 1) position (String.utf8EncodeChar c ++ r) =
      (decodeFrom fuel next r).map (c :: ·) := by
  have hvalid : c.toNat < 0xD800 ∨ 0xDFFF < c.toNat ∧ c.toNat < 0x110000 := c.valid
  have hc : Char.ofNat c.toNat = c := Char.ofNat_toNat c
  have hval : c.val.toNat = c.toNat := rfl
  unfold String.utf8EncodeChar
  rw [hval]
  generalize c.toNat = v at hvalid hc
  subst hc
  dsimp only
  split_ifs with h1 h2 h3
  · exact ⟨_, decodeFrom_one fuel position r h1⟩
  · exact ⟨_, decodeFrom_two fuel position r (by omega) h2⟩
  · exact ⟨_, decodeFrom_three fuel position r (by omega) h3 (by omega)⟩
  · exact ⟨_, decodeFrom_four fuel position r (by omega) (by omega)⟩

end Sequences

/-! ## Texts -/

theorem decodeFrom_flatMap (cs : List Char) {fuel : ℕ} (h : cs.length < fuel) (position : ℕ) :
    decodeFrom fuel position (cs.flatMap String.utf8EncodeChar) = .ok cs := by
  induction cs generalizing fuel position with
  | nil =>
    cases fuel <;> rfl
  | cons c cs ih =>
    cases fuel with
    | zero => exact absurd h (Nat.not_lt_zero _)
    | succ fuel =>
      obtain ⟨next, hnext⟩ := exists_decodeFrom_encodeChar fuel position
        (cs.flatMap String.utf8EncodeChar) c
      rw [List.flatMap_cons, hnext, ih (Nat.lt_of_succ_lt_succ h) next]
      rfl

theorem length_le_flatMap_encodeChar (cs : List Char) :
    cs.length ≤ (cs.flatMap String.utf8EncodeChar).length := by
  induction cs with
  | nil => exact Nat.le_refl 0
  | cons c cs ih =>
    have hc : 0 < (String.utf8EncodeChar c).length := by
      rw [String.length_utf8EncodeChar]
      exact Char.utf8Size_pos c
    rw [List.flatMap_cons, List.length_append, List.length_cons]
    omega

/-- What is encoded is decoded to the same characters. -/
theorem decode_toUTF8 (s : String) : decode s.toUTF8.toList = .ok s.toList := by
  rw [toList_toUTF8, decode]
  exact decodeFrom_flatMap s.toList (Nat.lt_succ_of_le (length_le_flatMap_encodeChar _)) 0

end GrowthGrammar.Text
