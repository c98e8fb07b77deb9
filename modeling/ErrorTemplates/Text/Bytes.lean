/-!
# Bytes of texts

Texts are written as bytes, in UTF-8.
-/

namespace ErrorTemplates
namespace Text

/-- The bytes of a text. -/
def utf8 (text : String) : List UInt8 := text.toUTF8.toList

theorem toList_byteArray (bytes : ByteArray) : bytes.toList = bytes.data.toList := by
  have collected (index : Nat) (found : List UInt8) :
      ByteArray.toList.loop bytes index found =
        found.reverse ++ bytes.data.toList.drop index := by
    fun_induction ByteArray.toList.loop bytes index found with
    | case1 index found inside inductionHypothesis =>
        have isInside : index < bytes.data.size := inside
        have next : bytes.data.toList.drop index =
            bytes.get! index :: bytes.data.toList.drop (index + 1) := by
          rw [List.drop_eq_getElem_cons (by simpa using isInside), ByteArray.get!,
            getElem!_pos bytes.data index isInside, Array.getElem_toList]
        rw [inductionHypothesis, next, List.reverse_cons, List.append_assoc,
          List.singleton_append]
    | case2 index found outside =>
        have noneLeft : bytes.data.toList.length ≤ index := Nat.le_of_not_lt outside
        rw [List.drop_eq_nil_of_le noneLeft, List.append_nil]
  exact collected 0 []

theorem toList_append_byteArray (first second : ByteArray) :
    (first ++ second).toList = first.toList ++ second.toList := by
  simp only [toList_byteArray, ByteArray.data_append, Array.toList_append]

theorem utf8_inj {one other : String} : utf8 one = utf8 other ↔ one = other := by
  refine ⟨fun same => ?_, congrArg utf8⟩
  rw [utf8, utf8, toList_byteArray, toList_byteArray, Array.toList_inj] at same
  exact String.toByteArray_inj.mp (ByteArray.ext same)

theorem utf8_append (one other : String) : utf8 (one ++ other) = utf8 one ++ utf8 other := by
  simp [utf8, toList_append_byteArray]

theorem utf8_join (pieces : List String) : utf8 (String.join pieces) = pieces.flatMap utf8 := by
  induction pieces with
  | nil => simp [utf8]
  | cons piece rest inductionHypothesis =>
      rw [String.join_cons, utf8_append, inductionHypothesis, List.flatMap_cons]

theorem fromUTF8?_toUTF8 (text : String) : String.fromUTF8? text.toUTF8 = some text := by
  rw [String.fromUTF8?, String.toUTF8_eq_toByteArray, dif_pos text.isValidUTF8]
  rfl

end Text
end ErrorTemplates
