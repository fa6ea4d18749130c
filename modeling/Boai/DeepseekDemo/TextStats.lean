import Boai.Lib.Utf8
import Boai.DeepseekDemo.ToolResults

/-!
# The statistics of a text

`RunTextStatsTool` works on bytes.  For a text in UTF-8 its numbers are those of
the code points in front of the first NUL: it counts each of them once, sees the
same words and lines, and calls the text ASCII exactly if it is.
-/

namespace Boai.DeepseekDemo

open Boai.Json Boai.Completion

/-- The text with the given code points, in UTF-8. -/
def utf8Text (points : List Char) : String := String.ofList (Utf8.encode points)

/-- The number of words between white space. -/
def wordCount (points : List Char) : Nat :=
  (points.splitOnP isSpace).countP fun word => !word.isEmpty

theorem isSpace_above {byte : Char} (above : 0x7F < byte.toNat) : isSpace byte = false := by
  have notSpace : byte ≠ ' ' := by
    intro same
    rw [same] at above
    exact absurd above (by decide)
  have notControl : ¬byte ≤ '\r' := by
    intro below
    have bounded : byte.toNat ≤ 13 := below
    omega
  simp [isSpace, notSpace, notControl]

/-- The lines of a text, none if it is empty. -/
def lineCount (points : List Char) : Nat := if points = [] then 0 else points.count '\n' + 1

/-- Inside a word, the loop of `CountWords` counts the words after the next white
space; outside of one, all of them. -/
theorem countWordsFrom_eq (points : List Char) :
    countWordsFrom true points =
        (points.splitOnP isSpace).tail.countP (fun word => !word.isEmpty) ∧
      countWordsFrom false points = wordCount points := by
  induction points with
  | nil => exact ⟨rfl, rfl⟩
  | cons point points ih =>
      obtain ⟨inside, outside⟩ := ih
      have pieces := List.cons_head_tail (List.splitOnP_ne_nil isSpace points)
      rw [wordCount, countWordsFrom, countWordsFrom, List.splitOnP_cons_eq_if_modifyHead]
      cases isSpace point with
      | true =>
          simp only [↓reduceIte, List.tail_cons, List.countP_cons, outside, wordCount, true_and]
          rfl
      | false =>
          rw [← pieces]
          simp only [Bool.false_eq_true, ↓reduceIte, List.modifyHead_cons, List.tail_cons,
            List.countP_cons, inside, true_and]
          rfl

theorem countWordsFrom_bytes (inWord : Bool) {bytes : List Char}
    (dark : ∀ byte ∈ bytes, isSpace byte = false) (nonempty : bytes ≠ []) (rest : List Char) :
    countWordsFrom inWord (bytes ++ rest) =
      countWordsFrom true rest + if inWord then 0 else 1 := by
  induction bytes generalizing inWord with
  | nil => exact absurd rfl nonempty
  | cons byte bytes ih =>
      rw [List.forall_mem_cons] at dark
      have onward : countWordsFrom true (bytes ++ rest) = countWordsFrom true rest := by
        cases bytes with
        | nil => rfl
        | cons => exact ih true dark.2 (List.cons_ne_nil _ _)
      rw [List.cons_append, countWordsFrom, dark.1, onward]
      cases inWord <;> rfl

theorem countWordsFrom_encode (inWord : Bool) (points : List Char) :
    countWordsFrom inWord (Utf8.encode points) = countWordsFrom inWord points := by
  induction points generalizing inWord with
  | nil => rfl
  | cons point points ih =>
      rw [Utf8.encode_cons]
      by_cases ascii : point.toNat ≤ 0x7F
      · rw [Utf8.bytes_ascii ascii, List.singleton_append, countWordsFrom, countWordsFrom,
          ih, ih]
      · have above := Utf8.all_above_of_other ascii
        obtain ⟨first, rest, split, -⟩ := Utf8.bytes_other ascii
        have nonempty : Utf8.bytes point ≠ [] := by
          rw [split]
          exact List.cons_ne_nil _ _
        rw [countWordsFrom_bytes inWord (fun byte member => isSpace_above (above byte member))
          nonempty, ih, countWordsFrom, isSpace_above (by omega : 0x7F < point.toNat)]
        cases inWord <;> rfl

/-! ## The numbers of the tool -/

/-- What a C string holds of the code points of a text. -/
def spoken (points : List Char) : List Char := points.takeWhile (· ≠ '\x00')

theorem cStr_utf8Text (points : List Char) : cStr (utf8Text points) = utf8Text (spoken points) := by
  have notNul : ∀ byte : Char, 0x7F < byte.toNat → decide (byte ≠ '\x00') = true := by
    intro byte above
    apply decide_eq_true
    intro nul
    rw [nul] at above
    exact absurd above (by decide)
  rw [cStr, utf8Text, String.toList_ofList, Utf8.takeWhile_encode notNul]
  rfl

theorem countUtf8CodePoints_utf8Text (points : List Char) :
    countUtf8CodePoints (utf8Text points) = points.length := by
  rw [countUtf8CodePoints, utf8Text, String.toList_ofList, ← Utf8.countP_not_continues points]
  congr 1
  funext byte
  simp [Utf8.continues]

theorem lines_utf8Text (points : List Char) :
    (utf8Text points).toList.count '\n' = points.count '\n' := by
  have asciiOnly : ∀ byte : Char, 0x7F < byte.toNat → (byte == '\n') = false := by
    intro byte above
    apply beq_eq_false_iff_ne.mpr
    intro newline
    rw [newline] at above
    exact absurd above (by decide)
  rw [utf8Text, String.toList_ofList]
  exact Utf8.countP_encode asciiOnly points

theorem utf8Text_eq_empty (points : List Char) : utf8Text points = "" ↔ points = [] := by
  constructor
  · intro empty
    have none : (Utf8.encode points).length = 0 := by
      rw [← String.length_ofList, ← utf8Text, empty]
      rfl
    have counted := Utf8.countP_not_continues points
    rw [List.length_eq_zero_iff.mp none] at counted
    exact List.length_eq_zero_iff.mp counted.symm
  · intro empty
    rw [empty]
    rfl

/-- On a text in UTF-8 the tool reports the bytes, code points, words and lines in
front of the first NUL, and whether one of the code points is not ASCII. -/
theorem textStats_of_utf8 (host : Host) {args : Members} {points : List Char}
    (given : ifContains args "text" = some (.string (utf8Text points))) :
    runTextStatsTool host (.object args) = some (succeeded (jsonObject [
      ("bytes", .int64 ((spoken points).map Char.utf8Size).sum),
      ("characters", .int64 (spoken points).length),
      ("words", .int64 (wordCount (spoken points))),
      ("lines", .int64 (lineCount (spoken points))),
      ("has_non_ascii", .bool ((spoken points).any fun point => 0x7F < point.toNat))])) := by
  have text : jsonStringField args "text" = some (utf8Text (spoken points)) := by
    rw [jsonStringField, jsonStringFromObjectField, given, ← cStr_utf8Text]
  have bytes : (utf8Text (spoken points)).length = ((spoken points).map Char.utf8Size).sum := by
    rw [utf8Text, String.length_ofList, Utf8.length_encode]
  have words : countWords (utf8Text (spoken points)) = wordCount (spoken points) := by
    rw [countWords, utf8Text, String.toList_ofList, countWordsFrom_encode,
      (countWordsFrom_eq _).2]
  have ascii : ((utf8Text (spoken points)).toList.any fun byte => 0x7F < byte.toNat) =
      (spoken points).any fun point => 0x7F < point.toNat := by
    rw [utf8Text, String.toList_ofList, Utf8.any_above_encode]
  simp only [runTextStatsTool, withObjectArgs, text, bytes, countUtf8CodePoints_utf8Text, words,
    lines_utf8Text, utf8Text_eq_empty, ascii]
  rfl

/-- A text of ten bytes, of which an ASCII text would have eight. -/
theorem textStats_of_utf8_twoLines :
    runTextStatsTool plainHost (.object [("text", .string (utf8Text "één\nzwei".toList))]) =
      some (succeeded (jsonObject [("bytes", .int64 10), ("characters", .int64 8),
        ("words", .int64 2), ("lines", .int64 2), ("has_non_ascii", .bool true)])) :=
  @textStats_of_utf8 plainHost _ "één\nzwei".toList rfl

end Boai.DeepseekDemo
