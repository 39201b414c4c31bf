/-!
Places in a text. Inside, they are counted in characters; outside, in the bytes of UTF-8.
-/

namespace Redraft.Text

def utf8 (text : List Char) : List UInt8 := text.flatMap String.utf8EncodeChar

theorem utf8_cons (c : Char) (text : List Char) :
    utf8 (c :: text) = String.utf8EncodeChar c ++ utf8 text := List.flatMap_cons

theorem utf8_append (text more : List Char) : utf8 (text ++ more) = utf8 text ++ utf8 more :=
  List.flatMap_append

def byteOffset : List Char → Nat → Nat
  | c :: text, count + 1 => c.utf8Size + byteOffset text count
  | _, _ => 0

@[simp] theorem byteOffset_zero (text : List Char) : byteOffset text 0 = 0 := by
  simp [byteOffset]

theorem byteOffset_succ (c : Char) (text : List Char) (count : Nat) :
    byteOffset (c :: text) (count + 1) = c.utf8Size + byteOffset text count := by
  simp [byteOffset]

end Redraft.Text
