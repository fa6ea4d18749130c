import Mathlib.Algebra.GroupWithZero.Nat
import Mathlib.Data.List.Basic

/-!
# Texts in UTF-8

A string of bytes is a list of characters below `256`.  `Utf8.encode` gives the
bytes of a list of code points.  A code point below `128` is its own byte; the
bytes of any other are above `127`, and only the first of them is no continuation
byte.
-/

namespace Utf8

/-- The bytes of a code point. -/
def bytes (point : Char) : List Char :=
  (String.utf8EncodeChar point).map fun byte => Char.ofNat byte.toNat

/-- The bytes of a list of code points. -/
def encode (points : List Char) : List Char := points.flatMap bytes

@[simp] theorem encode_nil : encode [] = [] := rfl

@[simp] theorem encode_cons (point : Char) (points : List Char) :
    encode (point :: points) = bytes point ++ encode points := rfl

/-- A byte `10xxxxxx`. -/
def continues (byte : Char) : Bool := byte.toNat &&& 0xC0 = 0x80

theorem toNat_ofNat {byte : Nat} (isByte : byte < 256) : (Char.ofNat byte).toNat = byte := by
  have valid : byte.isValidChar := .inl (by omega)
  rw [Char.ofNat, dif_pos valid]
  rfl

theorem continues_ofNat {byte : Nat} (isByte : byte < 256) :
    continues (Char.ofNat byte) = decide (0x80 ≤ byte ∧ byte < 0xC0) := by
  have every : ∀ byte < 256, (byte &&& 0xC0 = 0x80) ↔ (0x80 ≤ byte ∧ byte < 0xC0) := by
    decide +kernel
  rw [continues, toNat_ofNat isByte]
  exact decide_eq_decide.mpr (every byte isByte)

@[simp] theorem toNat_uint8 {byte : Nat} (isByte : byte < 256) :
    (UInt8.ofNat byte).toNat = byte := by
  rw [UInt8.toNat_ofNat']
  exact Nat.mod_eq_of_lt isByte

theorem bytes_ascii {point : Char} (ascii : point.toNat ≤ 0x7F) : bytes point = [point] := by
  have encoded : String.utf8EncodeChar point = [UInt8.ofNat point.toNat] := if_pos ascii
  rw [bytes, encoded]
  simp only [List.map_cons, List.map_nil]
  rw [toNat_uint8 (by omega), Char.ofNat_toNat]

/-- A byte that stands for a part of a code point beyond ASCII. -/
def IsLeading (byte : Char) : Prop := continues byte = false ∧ 0x7F < byte.toNat

def IsContinuing (byte : Char) : Prop := continues byte = true ∧ 0x7F < byte.toNat

theorem isLeading_ofNat {byte : Nat} (low : 0xC0 ≤ byte) (high : byte < 256) :
    IsLeading (Char.ofNat (UInt8.ofNat byte).toNat) := by
  rw [toNat_uint8 high, IsLeading, continues_ofNat high, toNat_ofNat high]
  simp only [decide_eq_false_iff_not]
  omega

theorem isContinuing_ofNat {byte : Nat} (low : 0x80 ≤ byte) (high : byte < 0xC0) :
    IsContinuing (Char.ofNat (UInt8.ofNat byte).toNat) := by
  rw [toNat_uint8 (by omega), IsContinuing, continues_ofNat (by omega), toNat_ofNat (by omega)]
  simp only [decide_eq_true_eq]
  omega

/-- The first byte of a code point that is not ASCII, and those after it. -/
theorem bytes_other {point : Char} (other : ¬point.toNat ≤ 0x7F) :
    ∃ first rest, bytes point = first :: rest ∧ IsLeading first ∧
      ∀ byte ∈ rest, IsContinuing byte := by
  have notAscii : ¬point.val.toNat ≤ 0x7F := other
  rw [bytes, String.utf8EncodeChar]
  simp only [notAscii, ↓reduceIte]
  split
  case isTrue =>
    refine ⟨_, _, rfl, isLeading_ofNat (by omega) (by omega), ?_⟩
    simp only [List.map_cons, List.map_nil, List.forall_mem_cons]
    exact ⟨isContinuing_ofNat (by omega) (by omega), nofun⟩
  split
  case isTrue =>
    refine ⟨_, _, rfl, isLeading_ofNat (by omega) (by omega), ?_⟩
    simp only [List.map_cons, List.map_nil, List.forall_mem_cons]
    exact ⟨isContinuing_ofNat (by omega) (by omega),
      isContinuing_ofNat (by omega) (by omega), nofun⟩
  case isFalse =>
    refine ⟨_, _, rfl, isLeading_ofNat (by omega) (by omega), ?_⟩
    simp only [List.map_cons, List.map_nil, List.forall_mem_cons]
    exact ⟨isContinuing_ofNat (by omega) (by omega), isContinuing_ofNat (by omega) (by omega),
      isContinuing_ofNat (by omega) (by omega), nofun⟩

/-! ## What encoding keeps -/

theorem length_encode (points : List Char) :
    (encode points).length = (points.map Char.utf8Size).sum := by
  simp only [encode, List.length_flatMap, bytes, List.length_map, String.length_utf8EncodeChar]

/-- The bytes that do not continue a code point number the code points. -/
theorem countP_not_continues (points : List Char) :
    (encode points).countP (fun byte => !continues byte) = points.length := by
  induction points with
  | nil => rfl
  | cons point points ih =>
      rw [encode_cons, List.countP_append, ih, List.length_cons, Nat.add_comm]
      congr 1
      by_cases ascii : point.toNat ≤ 0x7F
      · have alone : continues point = false := by
          rw [← Char.ofNat_toNat point, continues_ofNat (by omega)]
          simp only [decide_eq_false_iff_not]
          omega
        rw [bytes_ascii ascii, List.countP_singleton, alone]
        rfl
      · obtain ⟨first, rest, split, leading, continuing⟩ := bytes_other ascii
        have none : rest.countP (fun byte => !continues byte) = 0 :=
          List.countP_eq_zero.mpr fun byte member => by simp [(continuing byte member).1]
        rw [split, List.countP_cons, none, leading.1]
        rfl

section Ascii

variable {p : Char → Bool}

theorem all_above_of_other {point : Char} (other : ¬point.toNat ≤ 0x7F) :
    ∀ byte ∈ bytes point, 0x7F < byte.toNat := by
  obtain ⟨first, rest, split, leading, continuing⟩ := bytes_other other
  rw [split]
  exact List.forall_mem_cons.mpr ⟨leading.2, fun byte member => (continuing byte member).2⟩

/-- Counting what is ASCII only gives the same for bytes and for code points. -/
theorem countP_encode (asciiOnly : ∀ byte, 0x7F < byte.toNat → p byte = false)
    (points : List Char) : (encode points).countP p = points.countP p := by
  induction points with
  | nil => rfl
  | cons point points ih =>
      rw [encode_cons, List.countP_append, ih, List.countP_cons, Nat.add_comm]
      congr 1
      by_cases ascii : point.toNat ≤ 0x7F
      · rw [bytes_ascii ascii, List.countP_singleton]
      · have none : (bytes point).countP p = 0 :=
          List.countP_eq_zero.mpr fun byte member => by
            simp [asciiOnly byte (all_above_of_other ascii byte member)]
        rw [none, asciiOnly point (by omega)]
        rfl

/-- Cutting at something ASCII gives the same for bytes and for code points. -/
theorem takeWhile_encode (asciiOnly : ∀ byte, 0x7F < byte.toNat → p byte = true)
    (points : List Char) : (encode points).takeWhile p = encode (points.takeWhile p) := by
  induction points with
  | nil => rfl
  | cons point points ih =>
      rw [encode_cons, List.takeWhile_cons]
      by_cases ascii : point.toNat ≤ 0x7F
      · rw [bytes_ascii ascii, List.singleton_append, List.takeWhile_cons, ih]
        split
        · rw [encode_cons, bytes_ascii ascii, List.singleton_append]
        · rfl
      · rw [List.takeWhile_append_of_pos fun byte member =>
          asciiOnly byte (all_above_of_other ascii byte member),
          asciiOnly point (by omega), ih]
        rfl

end Ascii

theorem any_above_encode (points : List Char) :
    ((encode points).any fun byte => 0x7F < byte.toNat) =
      points.any fun point => 0x7F < point.toNat := by
  induction points with
  | nil => rfl
  | cons point points ih =>
      rw [encode_cons, List.any_append, List.any_cons, ih]
      congr 1
      by_cases ascii : point.toNat ≤ 0x7F
      · rw [bytes_ascii ascii, List.any_cons, List.any_nil, Bool.or_false]
      · obtain ⟨first, rest, split, leading, -⟩ := bytes_other ascii
        have above : 0x7F < point.toNat := by omega
        rw [split, List.any_cons, decide_eq_true leading.2, decide_eq_true above, Bool.true_or]

end Utf8
