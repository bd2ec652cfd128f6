import Mathlib.Tactic.IntervalCases
import PascalWorkspace.Text.Utf8

/-! Reading UTF-8 gives back the characters that were written. -/
namespace PascalWorkspace.Text.Utf8

variable {count lo hi value k n : Nat} {rest : List UInt8}

/-! ### The first byte of a character, by the number of bytes that follow -/

theorem lead?_none_follow (hn : n < 0x80) : lead? n = some ⟨0, 0x80, 0xBF, n⟩ := if_pos hn

theorem lead?_one_follows (hk : 2 ≤ k) (hk' : k < 32) :
    lead? (k + 0xC0) = some ⟨1, 0x80, 0xBF, k⟩ := by
  interval_cases k <;> rfl

theorem lead?_two_follow (hk : k < 16) : lead? (k + 0xE0) =
    some ⟨2, if k = 0 then 0xA0 else 0x80, if k = 13 then 0x9F else 0xBF, k⟩ := by
  interval_cases k <;> rfl

theorem lead?_three_follow (hk : k < 5) : lead? (k + 0xF0) =
    some ⟨3, if k = 0 then 0x90 else 0x80, if k = 4 then 0x8F else 0xBF, k⟩ := by
  interval_cases k <;> rfl

theorem readOne_of_lead? (hn : n < 256) (hlead : lead? n = some ⟨count, lo, hi, value⟩) :
    readOne (UInt8.ofNat n) rest = continueWith count lo hi value rest := by
  rw [readOne, UInt8.toNat_ofNat_of_lt' hn, hlead]

/-- A byte that continues a character brings six more bits. -/
theorem continueWith_cons (hn : n < 64) (hlo : lo ≤ n + 0x80) (hhi : n + 0x80 ≤ hi) :
    continueWith (count + 1) lo hi value (UInt8.ofNat (n + 0x80) :: rest) =
      continueWith count 0x80 0xBF (value * 64 + n) rest := by
  rw [continueWith, UInt8.toNat_ofNat_of_lt' (by omega : n + 0x80 < 256), if_pos ⟨hlo, hhi⟩, Nat.add_sub_cancel]

/-- The bytes of a character are read as that character, and nothing behind them is read. -/
theorem readOne_utf8EncodeChar (c : Char) (rest : List UInt8) :
    ∃ b bs, String.utf8EncodeChar c = b :: bs ∧ readOne b (bs ++ rest) = (some c.toNat, rest) := by
  have hvalid : c.toNat < 0xD800 ∨ 0xDFFF < c.toNat ∧ c.toNat < 0x110000 := c.valid
  have hvalue : c.val.toNat = c.toNat := rfl
  rw [String.utf8EncodeChar, hvalue]
  generalize c.toNat = v at hvalid
  split
  · refine ⟨_, _, rfl, ?_⟩
    rw [readOne_of_lead? (by omega) (lead?_none_follow (by omega))]
    rfl
  · split
    · refine ⟨_, _, rfl, ?_⟩
      have hvalue : v / 64 % 32 * 64 + v % 64 = v := by omega
      rw [readOne_of_lead? (by omega) (lead?_one_follows (by omega) (by omega)),
        List.singleton_append, continueWith_cons (by omega) (by omega) (by omega), continueWith,
        hvalue]
    · split
      · refine ⟨_, _, rfl, ?_⟩
        have hvalue : (v / 4096 % 16 * 64 + v / 64 % 64) * 64 + v % 64 = v := by omega
        rw [readOne_of_lead? (by omega) (lead?_two_follow (by omega)), List.cons_append,
          List.singleton_append,
          continueWith_cons (by omega) (by split <;> omega) (by split <;> omega),
          continueWith_cons (by omega) (by omega) (by omega), continueWith, hvalue]
      · refine ⟨_, _, rfl, ?_⟩
        have hvalue :
            ((v / 262144 % 8 * 64 + v / 4096 % 64) * 64 + v / 64 % 64) * 64 + v % 64 = v := by
          omega
        rw [readOne_of_lead? (by omega) (lead?_three_follow (by omega)), List.cons_append,
          List.cons_append, List.singleton_append,
          continueWith_cons (by omega) (by split <;> omega) (by split <;> omega),
          continueWith_cons (by omega) (by omega) (by omega),
          continueWith_cons (by omega) (by omega) (by omega), continueWith, hvalue]

theorem read_encode (cs : List Char) : read (encode cs) = cs.map some := by
  induction cs with
  | nil => rw [encode, List.flatMap_nil, read, List.map_nil]
  | cons c cs ih =>
    obtain ⟨b, bs, hbytes, hread⟩ := readOne_utf8EncodeChar c (encode cs)
    have hencode : encode (c :: cs) = b :: (bs ++ encode cs) := by
      rw [encode, List.flatMap_cons, hbytes, List.cons_append, encode]
    rw [hencode, read, hread, ih, List.map_cons, Option.map_some, Char.ofNat_toNat]

/-- Text that was written as UTF-8 is read back. -/
theorem decodeLenient_encode (cs : List Char) : decodeLenient (encode cs) = cs := by
  rw [decodeLenient, read_encode, List.map_map]
  exact List.map_id cs

end PascalWorkspace.Text.Utf8
