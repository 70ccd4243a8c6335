import MemoryWatch.Record
import Mathlib.Tactic.SplitIfs

/-!
# Reading back encoded text

A text survives its encoding: the bytes of each character are read as this one
character, whatever stands behind them.  The byte of a line feed occurs in the
encoding of no other character, so the lines of a text can be told apart in its
bytes.
-/

namespace MemoryWatch

namespace Utf8

@[simp]
theorem encode_nil : encode [] = [] := rfl

@[simp]
theorem encode_cons (first : Char) (rest : List Char) :
    encode (first :: rest) = String.utf8EncodeChar first ++ encode rest := rfl

@[simp]
theorem encode_append (first second : List Char) :
    encode (first ++ second) = encode first ++ encode second :=
  List.flatMap_append

theorem piecesFrom_between (byte : UInt8) (rest : List UInt8) :
    piecesFrom .between (byte :: rest) =
      (begin byte).1 ++ piecesFrom (begin byte).2 rest := rfl

/-- A byte within the bounds continues a sequence that owes more. -/
theorem piecesFrom_continue {low high byte : UInt8} (owed gathered : Nat)
    (rest : List UInt8) (fits : low ≤ byte ∧ byte ≤ high) :
    piecesFrom (.inside (owed + 2) low high gathered) (byte :: rest) =
      piecesFrom (.inside (owed + 1) 0x80 0xBF
        (gathered * 64 + (byte.toNat - 0x80))) rest := by
  simp [piecesFrom, step, fits]

/-- The last byte of a sequence completes its character. -/
theorem piecesFrom_complete {low high byte : UInt8} (gathered : Nat)
    (rest : List UInt8) (fits : low ≤ byte ∧ byte ≤ high) :
    piecesFrom (.inside 1 low high gathered) (byte :: rest) =
      some (Char.ofNat (gathered * 64 + (byte.toNat - 0x80))) ::
        piecesFrom .between rest := by
  simp [piecesFrom, step, fits]

theorem begin_one {value : Nat} (small : value < 0x80) :
    begin (UInt8.ofNat value) = ([some (Char.ofNat value)], .between) := by
  have number : (UInt8.ofNat value).toNat = value := by
    simp
    omega
  rw [begin, number]
  exact if_pos small

/-- The first byte of two. -/
theorem begin_two {lead : Nat} (low : 2 ≤ lead) (high : lead < 32) :
    begin (UInt8.ofNat (lead + 0xC0)) = ([], .inside 1 0x80 0xBF lead) := by
  have number : (UInt8.ofNat (lead + 0xC0)).toNat = lead + 0xC0 := by
    simp
    omega
  rw [begin, number, if_neg (by omega), if_neg (by omega), if_pos (by omega)]
  simp

/-- The bytes that may follow the first byte of three. -/
theorem begin_three (lead second : Nat) (high : lead < 16)
    (below : second < 64) (long : lead = 0 → 32 ≤ second)
    (scalar : lead = 13 → second < 32) :
    ∃ least most,
      begin (UInt8.ofNat (lead + 0xE0)) = ([], .inside 2 least most lead) ∧
        least ≤ UInt8.ofNat (second + 0x80) ∧
        UInt8.ofNat (second + 0x80) ≤ most := by
  have number : (UInt8.ofNat (lead + 0xE0)).toNat = lead + 0xE0 := by
    simp
    omega
  have next : (UInt8.ofNat (second + 0x80)).toNat = second + 0x80 := by
    simp
    omega
  simp only [UInt8.le_iff_toNat_le, next]
  rw [begin, number, if_neg (by omega), if_neg (by omega), if_neg (by omega)]
  by_cases zero : lead = 0
  · subst zero
    exact ⟨0xA0, 0xBF, rfl, by simp; omega, by simp; omega⟩
  rw [if_neg (by omega)]
  by_cases surrogate : lead = 13
  · subst surrogate
    exact ⟨0x80, 0x9F, rfl, by simp, by simp; omega⟩
  rw [if_neg (by omega), if_pos (by omega), Nat.add_sub_cancel]
  exact ⟨0x80, 0xBF, rfl, by simp, by simp; omega⟩

/-- The bytes that may follow the first byte of four. -/
theorem begin_four (lead second : Nat) (high : lead ≤ 4)
    (below : second < 64) (long : lead = 0 → 16 ≤ second)
    (last : lead = 4 → second < 16) :
    ∃ least most,
      begin (UInt8.ofNat (lead + 0xF0)) = ([], .inside 3 least most lead) ∧
        least ≤ UInt8.ofNat (second + 0x80) ∧
        UInt8.ofNat (second + 0x80) ≤ most := by
  have number : (UInt8.ofNat (lead + 0xF0)).toNat = lead + 0xF0 := by
    simp
    omega
  have next : (UInt8.ofNat (second + 0x80)).toNat = second + 0x80 := by
    simp
    omega
  simp only [UInt8.le_iff_toNat_le, next]
  rw [begin, number, if_neg (by omega), if_neg (by omega), if_neg (by omega),
    if_neg (by omega), if_neg (by omega), if_neg (by omega)]
  by_cases zero : lead = 0
  · subst zero
    exact ⟨0x90, 0xBF, rfl, by simp; omega, by simp; omega⟩
  rw [if_neg (by omega)]
  by_cases four : lead = 4
  · subst four
    exact ⟨0x80, 0x8F, rfl, by simp, by simp; omega⟩
  rw [if_pos (by omega), Nat.add_sub_cancel]
  exact ⟨0x80, 0xBF, rfl, by simp, by simp; omega⟩

/-- The six bits of a byte behind the first one of a sequence. -/
theorem toNat_continuation (value : Nat) :
    (UInt8.ofNat (value % 64 + 128)).toNat - 0x80 = value % 64 := by
  simp
  omega

theorem continuation_fits (value : Nat) :
    0x80 ≤ UInt8.ofNat (value % 64 + 128) ∧
      UInt8.ofNat (value % 64 + 128) ≤ 0xBF := by
  simp only [UInt8.le_iff_toNat_le, UInt8.toNat_ofNat']
  constructor
  · simp
    omega
  · simp
    omega

theorem toNat_cases (character : Char) :
    character.toNat < 0xD800 ∨
      0xE000 ≤ character.toNat ∧ character.toNat < 0x110000 := by
  obtain below | ⟨above, last⟩ := character.valid
  · exact Or.inl below
  · exact Or.inr ⟨above, last⟩

/-- The bytes of a character are read as this character, whatever follows. -/
theorem piecesFrom_encodeChar (character : Char) (rest : List UInt8) :
    piecesFrom .between (String.utf8EncodeChar character ++ rest) =
      some character :: piecesFrom .between rest := by
  have range := toNat_cases character
  have value : character.val.toNat = character.toNat := rfl
  conv => rhs; rw [← Char.ofNat_toNat character]
  rw [String.utf8EncodeChar, value]
  generalize character.toNat = number at range
  split_ifs with one two three
  · rw [List.singleton_append, piecesFrom_between, begin_one (by omega)]
    rfl
  · rw [List.cons_append, List.cons_append, List.nil_append,
      piecesFrom_between, begin_two (by omega) (by omega)]
    rw [List.nil_append, piecesFrom_complete _ _ (continuation_fits number),
      toNat_continuation]
    congr 3
    omega
  · obtain ⟨least, most, begun, fits⟩ := begin_three
      (number / 4096 % 16) (number / 64 % 64)
      (by omega) (by omega) (by omega) (by omega)
    rw [List.cons_append, List.cons_append, List.cons_append, List.nil_append,
      piecesFrom_between, begun, List.nil_append,
      piecesFrom_continue 0 _ _ fits,
      piecesFrom_complete _ _ (continuation_fits number), toNat_continuation,
      toNat_continuation]
    congr 3
    omega
  · obtain ⟨least, most, begun, fits⟩ := begin_four
      (number / 262144 % 8) (number / 4096 % 64)
      (by omega) (by omega) (by omega) (by omega)
    rw [List.cons_append, List.cons_append, List.cons_append, List.cons_append,
      List.nil_append, piecesFrom_between, begun, List.nil_append,
      piecesFrom_continue 1 _ _ fits,
      piecesFrom_continue 0 _ _ (continuation_fits (number / 64)),
      piecesFrom_complete _ _ (continuation_fits number), toNat_continuation,
      toNat_continuation, toNat_continuation]
    congr 3
    omega

theorem pieces_encode (text : List Char) :
    pieces (encode text) = text.map some := by
  induction text with
  | nil => rfl
  | cons first rest ih =>
      rw [encode_cons, pieces, piecesFrom_encodeChar]
      exact congrArg (some first :: ·) ih

/-- A text is read back from its bytes. -/
@[simp]
theorem decode?_encode (text : List Char) : decode? (encode text) = some text := by
  rw [decode?, pieces_encode]
  induction text with
  | nil => rfl
  | cons first rest ih => simp [ih]

/-- Only a line feed has the byte of a line feed in its encoding. -/
theorem lineFeed_mem_encodeChar {character : Char}
    (member : (0x0A : UInt8) ∈ String.utf8EncodeChar character) :
    character = '\n' := by
  have value : character.val.toNat = character.toNat := rfl
  have range := toNat_cases character
  rw [String.utf8EncodeChar, value] at member
  split_ifs at member with one two three
  · have number := congrArg UInt8.toNat (List.mem_singleton.mp member)
    rw [← Char.ofNat_toNat character]
    simp at number
    rw [show character.toNat = 10 by omega]
  all_goals
    simp only [List.mem_cons, List.not_mem_nil, or_false,
      ← UInt8.toNat_inj, UInt8.toNat_ofNat'] at member
    simp at member
    omega

theorem lineFeed_mem_encode {text : List Char} :
    (0x0A : UInt8) ∈ encode text ↔ '\n' ∈ text := by
  constructor
  · intro member
    obtain ⟨character, present, inside⟩ := List.mem_flatMap.mp member
    rwa [← lineFeed_mem_encodeChar inside]
  · intro member
    exact List.mem_flatMap.mpr ⟨'\n', member, by decide⟩

end Utf8

end MemoryWatch
