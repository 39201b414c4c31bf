import Redraft.Text.Lines
import Redraft.Text.Offset

namespace Redraft.Text

theorem fromUTF8?_utf8 (text : List Char) :
    (String.fromUTF8? ⟨(utf8 text).toArray⟩).map String.toList = some text := by
  have hbytes : (⟨(utf8 text).toArray⟩ : ByteArray) = text.utf8Encode := by
    rw [List.utf8Encode, ← List.data_toByteArray]
    rfl
  have hstring : String.fromUTF8 text.utf8Encode ByteArray.isValidUTF8_utf8Encode =
      String.ofList text := rfl
  rw [hbytes, String.fromUTF8?, dif_pos ByteArray.isValidUTF8_utf8Encode, hstring,
    Option.map_some, String.toList_ofList]

section CutAfter

variable {α : Type} [BEq α] [LawfulBEq α] {mark : α}

theorem cutAfter_append {front : List α} (hnonempty : front ≠ []) (hmark : mark ∉ front)
    (rest : List α) :
    cutAfter mark (front ++ rest) =
      match cutAfter mark rest with
      | [] => [front]
      | part :: parts => (front ++ part) :: parts := by
  induction front with
  | nil => exact absurd rfl hnonempty
  | cons a front ih =>
      rw [List.mem_cons, not_or] at hmark
      obtain ⟨hne, hfront⟩ := hmark
      rw [List.cons_append, cutAfter, if_neg (by simpa using Ne.symm hne)]
      cases front with
      | nil =>
          rw [List.nil_append]
          cases cutAfter mark rest <;> rfl
      | cons b front =>
          rw [ih (List.cons_ne_nil b front) hfront]
          cases cutAfter mark rest <;> rfl

end CutAfter

theorem utf8EncodeChar_lineFeed : String.utf8EncodeChar '\n' = [10] := by decide

theorem lineFeed_ne_ofNat {n : Nat} (hn : n % 256 ≠ 10) : (10 : UInt8) ≠ UInt8.ofNat n := by
  intro heq
  have hvalue := congrArg UInt8.toNat heq
  rw [UInt8.toNat_ofNat'] at hvalue
  exact hn hvalue.symm

/-- All bytes of a longer character have their highest bit set. -/
theorem not_mem_utf8EncodeChar {c : Char} (hother : c ≠ '\n') :
    (10 : UInt8) ∉ String.utf8EncodeChar c := by
  have hvalue : c.val.toNat ≠ 10 := fun heq => hother (Char.ext (UInt32.toNat_inj.1 heq))
  rw [String.utf8EncodeChar.eq_def]
  dsimp only
  generalize c.val.toNat = value at hvalue
  -- There is a case for each number of bytes.
  repeat' split
  all_goals
    simp only [List.mem_cons, List.not_mem_nil, or_false, not_or]
    and_intros
  all_goals exact lineFeed_ne_ofNat (by omega)

theorem cutAfter_utf8 (text : List Char) :
    cutAfter 10 (utf8 text) = (cutAfter '\n' text).map utf8 := by
  induction text with
  | nil => rfl
  | cons c text ih =>
      rw [utf8_cons]
      by_cases hfeed : c = '\n'
      · subst hfeed
        rw [utf8EncodeChar_lineFeed, List.singleton_append, cutAfter, cutAfter,
          if_pos (beq_self_eq_true _), if_pos (beq_self_eq_true _), ih, List.map_cons]
        rfl
      · rw [cutAfter_append String.utf8EncodeChar_ne_nil (not_mem_utf8EncodeChar hfeed), ih,
          cutAfter, if_neg (by simpa using hfeed)]
        cases cutAfter '\n' text with
        | nil => simp [utf8]
        | cons part parts => simp [utf8_cons]

/-- Reading the bytes of a text line by line gives the lines of the text. -/
theorem linesOfBytes_utf8 (text : List Char) :
    linesOfBytes (utf8 text) = (linesWithEnds text).map some := by
  rw [linesOfBytes, cutAfter_utf8, List.map_map, linesWithEnds]
  exact List.map_congr_left fun line _ => fromUTF8?_utf8 line

end Redraft.Text
