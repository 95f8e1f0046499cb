import BomEvidence.Sorted.TextSet

/-!
The order of texts is the order of their UTF-8 bytes. Texts are compared by their code
points; a character with a smaller code point has bytes that come before those of a greater
one, and they differ before either of them ends.
-/

namespace BomEvidence

def bytesOf (text : String) : List UInt8 := text.toList.flatMap String.utf8EncodeChar

theorem bytes_of_text (text : String) : (bytesOf text).toByteArray = text.toUTF8 :=
  String.utf8Encode_toList

theorem digits_lt {low high : Nat} (less : low < high) :
    low / 262144 < high / 262144 ∨ low / 262144 = high / 262144 ∧
      (low / 4096 % 64 < high / 4096 % 64 ∨ low / 4096 % 64 = high / 4096 % 64 ∧
        (low / 64 % 64 < high / 64 % 64 ∨ low / 64 % 64 = high / 64 % 64 ∧
          low % 64 < high % 64)) := by
  have digits (number : Nat) : number = number / 262144 * 262144 + number / 4096 % 64 * 4096 +
      number / 64 % 64 * 64 + number % 64 := by omega
  have lowDigits := digits low
  have highDigits := digits high
  omega

theorem encoded_lt {low high : Char} (less : low < high) (first second : List UInt8) :
    String.utf8EncodeChar low ++ first < String.utf8EncodeChar high ++ second := by
  have below : low.val.toNat < high.val.toNat := less
  have bound : high.val.toNat < 1114112 := by
    rcases high.valid with small | ⟨_, large⟩
    · exact Nat.lt_trans small (by decide)
    · exact large
  unfold String.utf8EncodeChar
  generalize low.val.toNat = lower at *
  generalize high.val.toNat = higher at *
  have compared := digits_lt below
  have byte (number : Nat) : (UInt8.ofNat number).toNat = number % 256 := UInt8.toNat_ofNat'
  have follower (number : Nat) : (number % 64 + 128) % 256 = number % 64 + 128 := by omega
  have lowTop : (lower / 262144 % 8 + 240) % 256 = lower / 262144 + 240 := by omega
  have highTop : (higher / 262144 % 8 + 240) % 256 = higher / 262144 + 240 := by omega
  dsimp only
  -- One case for each pair of lengths, the first bytes of different lengths being apart.
  repeat' split
  all_goals
    simp only [List.cons_append, List.nil_append, List.cons_lt_cons_iff, UInt8.lt_iff_toNat_lt,
      ← UInt8.toNat_inj, byte, follower, lowTop, highTop]
    omega

theorem bytes_lt_of_lt {first second : List Char} (less : first < second) :
    first.flatMap String.utf8EncodeChar < second.flatMap String.utf8EncodeChar := by
  induction first generalizing second with
  | nil =>
      cases second with
      | nil => exact absurd less (List.lt_irrefl [])
      | cons head rest =>
          rw [List.flatMap_nil, List.flatMap_cons]
          cases bytes : String.utf8EncodeChar head with
          | nil => exact absurd bytes String.utf8EncodeChar_ne_nil
          | cons byte others => exact List.nil_lt_cons _ _
  | cons head rest ih =>
      cases second with
      | nil => exact absurd less (List.not_lt_nil _)
      | cons other others =>
          rw [List.flatMap_cons, List.flatMap_cons]
          rcases List.cons_lt_cons_iff.1 less with lower | ⟨rfl, restLess⟩
          · exact encoded_lt lower _ _
          · exact List.append_left_lt (ih restLess)

theorem lt_iff_bytes_lt {first second : String} :
    first < second ↔ bytesOf first < bytesOf second := by
  constructor
  · exact bytes_lt_of_lt
  · intro less
    apply String.not_le.1
    intro notLess
    by_cases same : first = second
    · subst same
      exact List.lt_irrefl _ less
    · have greater := bytes_lt_of_lt (text_lt_of_not_lt_of_ne (String.not_lt.2 notLess) same)
      exact List.lt_asymm less greater

end BomEvidence
