import CallForest.Text.Utf8

/-! # Bytes of texts

The bytes of a text are all that a file shows of it, and they show all of it.

* `Bytes.toList_loop`, `Bytes.toList_eq_data`: the loop that lists the bytes of an array.
* `Bytes.ofText_injective`: different texts have different bytes. -/

namespace CallForest

namespace Bytes

/-- The bytes of an array, from an index on, behind those that have been gone through. -/
theorem toList_loop (bytes : ByteArray) (index : Nat) (before : List UInt8) :
    ByteArray.toList.loop bytes index before =
      before.reverse ++ bytes.data.toList.drop index := by
  induction index, before using ByteArray.toList.loop.induct bytes with
  | case1 index before hindex ih =>
      have hdata : index < bytes.data.toList.length := by simpa using hindex
      rw [ByteArray.toList.loop, if_pos hindex, ih, List.drop_eq_getElem_cons hdata]
      simp [ByteArray.get!, hindex]
  | case2 index before hindex =>
      have hdata : bytes.data.toList.length ≤ index := by simpa using hindex
      rw [ByteArray.toList.loop, if_neg hindex, List.drop_eq_nil_of_le hdata, List.append_nil]

/-- All bytes of an array are listed. -/
theorem toList_eq_data (bytes : ByteArray) : bytes.toList = bytes.data.toList := by
  rw [ByteArray.toList, toList_loop]
  rfl

/-- **Different texts have different bytes.** -/
theorem ofText_injective : Function.Injective ofText := by
  intro text other hbytes
  rw [ofText, ofText, toList_eq_data, toList_eq_data] at hbytes
  exact String.toByteArray_inj.1 (ByteArray.ext (Array.ext' hbytes))

end Bytes

end CallForest
