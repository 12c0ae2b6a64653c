import Gamebook.Script.Cursor
import Mathlib.Data.List.Basic

/-!
# Bytes of a text

What the bytes of a script say of its characters.  A byte below 128 stands for
a character of its own: it is no part of a longer one
(`le_of_mem_utf8EncodeChar`).  So a newline byte is a newline
(`mem_bytes_iff`), the last byte is a carriage return if the last character is
one (`getLast?_bytes_eq_iff`), and the offsets next to such a byte stand between
characters (`slice?_eq`).
-/

namespace Gamebook.Script

/-! ## Bytes as a list -/

/-- The bytes of the characters, in order. -/
def bytes (text : List Char) : List UInt8 := text.flatMap String.utf8EncodeChar

theorem bytes_append (text other : List Char) : bytes (text ++ other) = bytes text ++ bytes other :=
  List.flatMap_append

theorem bytes_singleton (c : Char) : bytes [c] = String.utf8EncodeChar c :=
  List.flatMap_singleton _ c

theorem bytes_eq_nil_iff {text : List Char} : bytes text = [] ↔ text = [] := by
  cases text with
  | nil => exact iff_of_true rfl rfl
  | cons c text => simp [bytes, String.utf8EncodeChar_ne_nil]

theorem length_bytes_append (text other : List Char) :
    (bytes (text ++ other)).length = (bytes text).length + (bytes other).length := by
  rw [bytes_append, List.length_append]

theorem length_bytes_pos {text : List Char} (nonempty : text ≠ []) : 0 < (bytes text).length :=
  List.length_pos_iff.mpr (mt bytes_eq_nil_iff.mp nonempty)

theorem toByteArray_eq (script : String) :
    script.toByteArray = (bytes script.toList).toByteArray :=
  String.utf8Encode_toList.symm

theorem utf8ByteSize_eq (script : String) :
    script.utf8ByteSize = (bytes script.toList).length := by
  rw [← String.size_toByteArray, toByteArray_eq, List.size_toByteArray]

/-- Offsets count the bytes of the characters. -/
theorem byte?_eq (script : String) (offset : Nat) :
    byte? script offset = (bytes script.toList)[offset]? := by
  unfold byte?
  split
  next inside =>
    rw [utf8ByteSize_eq] at inside
    rw [List.getElem?_eq_getElem inside, List.getElem_eq_getElem_toByteArray]
    simp only [String.getUTF8Byte, toByteArray_eq]
  next outside =>
    rw [utf8ByteSize_eq, Nat.not_lt] at outside
    exact (List.getElem?_eq_none outside).symm

/-- The newline that is found is the first one in what is left of the bytes. -/
theorem newline?_eq (script : String) (offset : Nat) :
    newline? script offset =
      (((bytes script.toList).drop offset).findIdx? (· == '\n'.toUInt8)).map (offset + ·) := by
  fun_induction newline? script offset with
  | case1 offset inside here =>
    rw [utf8ByteSize_eq] at inside
    rw [byte?_eq, List.getElem?_eq_getElem inside] at here
    rw [List.drop_eq_getElem_cons inside, List.findIdx?_cons, Option.some.inj here]
    rfl
  | case2 offset inside elsewhere ih =>
    rw [utf8ByteSize_eq] at inside
    rw [byte?_eq, List.getElem?_eq_getElem inside, Option.some_inj] at elsewhere
    rw [ih, List.drop_eq_getElem_cons inside, List.findIdx?_cons, if_neg (by simpa using elsewhere),
      Option.map_map]
    congr 1
    funext distance
    simp only [Function.comp_apply]
    omega
  | case3 offset outside =>
    rw [utf8ByteSize_eq, Nat.not_lt] at outside
    rw [List.drop_eq_nil_of_le outside]
    rfl

/-! ## Bytes of single characters -/

/-- A character that takes several bytes has no small one. -/
theorem le_of_mem_utf8EncodeChar {c : Char} (large : 128 ≤ c.toNat) :
    ∀ byte ∈ String.utf8EncodeChar c, 128 ≤ byte.toNat := by
  simp only [Char.toNat] at large
  unfold String.utf8EncodeChar
  dsimp only
  repeat' split
  next small => omega
  -- Each byte of a longer character has a mark in its highest bits.
  all_goals
    simp only [List.forall_mem_cons, List.not_mem_nil, false_implies, implies_true, and_true,
      UInt8.toNat_ofNat']
    omega

theorem utf8EncodeChar_of_small {c : Char} (small : c.toNat < 128) :
    String.utf8EncodeChar c = [c.toUInt8] := by
  refine String.utf8EncodeChar_eq_singleton (Char.utf8Size_eq_one_iff.mpr ?_)
  rw [UInt32.le_iff_toNat_le]
  exact Nat.le_of_lt_succ small

theorem toNat_toUInt8_of_small {c : Char} (small : c.toNat < 128) : c.toUInt8.toNat = c.toNat := by
  rw [Char.toUInt8, UInt32.toNat_toUInt8]
  exact Nat.mod_eq_of_lt (Nat.lt_trans small (by decide))

/-- A small byte is found in no character but its own. -/
theorem mem_utf8EncodeChar_iff {c : Char} (small : c.toNat < 128) (other : Char) :
    c.toUInt8 ∈ String.utf8EncodeChar other ↔ other = c := by
  constructor
  · intro inside
    by_cases otherSmall : other.toNat < 128
    · rw [utf8EncodeChar_of_small otherSmall, List.mem_singleton] at inside
      have codes := congrArg UInt8.toNat inside
      rw [toNat_toUInt8_of_small small, toNat_toUInt8_of_small otherSmall] at codes
      exact (Char.toNat_inj.mp codes).symm
    · have large := le_of_mem_utf8EncodeChar (Nat.le_of_not_lt otherSmall) _ inside
      rw [toNat_toUInt8_of_small small] at large
      omega
  · rintro rfl
    rw [utf8EncodeChar_of_small small]
    exact List.mem_singleton_self _

/-! ## Bytes of texts -/

/-- A small character is in a text exactly when its byte is among the bytes. -/
theorem mem_bytes_iff {c : Char} (small : c.toNat < 128) (text : List Char) :
    c.toUInt8 ∈ bytes text ↔ c ∈ text := by
  simp only [bytes, List.mem_flatMap, mem_utf8EncodeChar_iff small, exists_eq_right]

/-- It is the last character exactly when its byte is the last one. -/
theorem getLast?_bytes_eq_iff {c : Char} (small : c.toNat < 128) (text : List Char) :
    (bytes text).getLast? = some c.toUInt8 ↔ text.getLast? = some c := by
  rcases List.eq_nil_or_concat' text with rfl | ⟨front, last, rfl⟩
  · exact ⟨nofun, nofun⟩
  have nonempty : String.utf8EncodeChar last ≠ [] := String.utf8EncodeChar_ne_nil
  rw [bytes_append, bytes_singleton, List.getLast?_append_of_ne_nil _ nonempty,
    List.getLast?_concat, Option.some_inj]
  constructor
  · intro atEnd
    exact (mem_utf8EncodeChar_iff small last).mp (List.mem_of_getLast? atEnd)
  · rintro rfl
    rw [utf8EncodeChar_of_small small]
    rfl

/-- Behind some of its characters a text can be cut. -/
theorem isValid_length_bytes {script : String} {before after : List Char}
    (whole : script.toList = before ++ after) :
    (⟨(bytes before).length⟩ : String.Pos.Raw).IsValid script := by
  refine String.Pos.Raw.isValid_iff_exists_append.mpr ⟨.ofList before, .ofList after, ?_, ?_⟩
  · rw [← String.ofList_append, ← whole, String.ofList_toList]
  · rw [String.Pos.Raw.ext_iff, String.byteIdx_rawEndPos, utf8ByteSize_eq, String.toList_ofList]

/-- The text between the offsets of its two ends. -/
theorem slice?_eq {script : String} {before text after : List Char}
    (whole : script.toList = before ++ (text ++ after)) :
    slice? script (bytes before).length (bytes (before ++ text)).length =
      some (String.ofList text) := by
  have start := isValid_length_bytes whole
  have stop := isValid_length_bytes (whole.trans (List.append_assoc before text after).symm)
  have ordered : (bytes before).length ≤ (bytes (before ++ text)).length := by
    rw [length_bytes_append]
    omega
  have taken : script.toByteArray.extract (bytes before).length (bytes (before ++ text)).length =
      (String.ofList text).toByteArray := by
    rw [toByteArray_eq, toByteArray_eq, whole, String.toList_ofList, bytes_append, bytes_append,
      bytes_append, List.toByteArray_append, List.toByteArray_append, List.length_append,
      ← List.size_toByteArray, ← List.size_toByteArray]
    exact (ByteArray.extract_append_size_add (i := 0)).trans
      (ByteArray.extract_append_eq_left rfl)
  rw [slice?, dif_pos ⟨start, stop, ordered⟩, Option.some_inj, ← String.toByteArray_inj]
  exact taken

end Gamebook.Script
