import Mathlib.Data.List.Basic
import Mathlib.Data.Nat.Notation
import Mathlib.Tactic.Ring

/-! Numbers at fixed places of a byte string: little-endian digits, slices, and the
overwriting of a slice. A slice reads back what was written to it, and nothing written
beside it. -/
namespace Fexma.ByteLayout

/-! ### Little-endian digits -/

/-- The lowest `width` digits of a number. -/
def encode : ℕ → ℕ → List UInt8
  | 0, _ => []
  | width + 1, value => UInt8.ofNat value :: encode width (value / 256)

def decode : List UInt8 → ℕ
  | [] => 0
  | byte :: bytes => byte.toNat + 256 * decode bytes

section Digits
variable {width value : ℕ} {bytes other : List UInt8}

@[simp] theorem length_encode : (encode width value).length = width := by
  induction width generalizing value with
  | zero => rfl
  | succ width ih => rw [encode, List.length_cons, ih]

theorem decode_lt : decode bytes < 256 ^ bytes.length := by
  induction bytes with
  | nil => exact Nat.one_pos
  | cons byte bytes ih =>
    have small := byte.toNat_lt
    rw [decode, List.length_cons, Nat.pow_succ]
    omega

/-- A number that fits into a field survives the way through its bytes. A larger one is cut to
the width, which is why the bound is asked for. -/
theorem decode_encode (fits : value < 256 ^ width) : decode (encode width value) = value := by
  induction width generalizing value with
  | zero =>
    rw [Nat.pow_zero, Nat.lt_one_iff] at fits
    rw [fits]
    rfl
  | succ width ih =>
    have rest : value / 256 < 256 ^ width := by
      rw [Nat.pow_succ] at fits
      exact Nat.div_lt_of_lt_mul (by rwa [Nat.mul_comm] at fits)
    rw [encode, decode, ih rest, UInt8.toNat_ofNat']
    exact Nat.mod_add_div value 256

/-- Every byte string is the encoding of its number. Of each width a number so has one encoding,
and a decoder of fields is canonical. -/
theorem encode_decode : encode bytes.length (decode bytes) = bytes := by
  induction bytes with
  | nil => rfl
  | cons byte bytes ih =>
    have small := byte.toNat_lt
    have quotient : (byte.toNat + 256 * decode bytes) / 256 = decode bytes := by omega
    have digit : UInt8.ofNat (byte.toNat + 256 * decode bytes) = byte := by
      apply UInt8.toNat_inj.mp
      rw [UInt8.toNat_ofNat']
      omega
    rw [decode, List.length_cons, encode, quotient, ih, digit]

/-- Byte strings of one length are told apart by their numbers, so a comparison of fields may be
made on either. -/
theorem decode_inj (length : bytes.length = other.length) (same : decode bytes = decode other) :
    bytes = other := by
  rw [← @encode_decode bytes, same, length, encode_decode]

/-- The lowest byte comes first: what follows a byte string counts in units above all that the
string can hold. -/
theorem decode_append : decode (bytes ++ other) = decode bytes + 256 ^ bytes.length * decode other := by
  induction bytes with
  | nil => simp [decode]
  | cons byte bytes ih =>
    rw [List.cons_append, decode, decode, ih, List.length_cons, Nat.pow_succ]
    ring

end Digits

/-! ### Slices -/

section Slices
variable {α : Type} {bytes data : List α} {offset width start count : ℕ}

def slice (bytes : List α) (offset width : ℕ) : List α := (bytes.drop offset).take width

/-- Write the data over the entries from the offset on. -/
def splice (bytes : List α) (offset : ℕ) : List α → List α
  | [] => bytes
  | entry :: data => splice (bytes.set offset entry) (offset + 1) data

@[simp] theorem length_splice : (splice bytes offset data).length = bytes.length := by
  induction data generalizing bytes offset with
  | nil => rfl
  | cons entry data ih => rw [splice, ih, List.length_set]

theorem length_slice (fits : offset + width ≤ bytes.length) :
    (slice bytes offset width).length = width := by
  rw [slice, List.length_take, List.length_drop]
  omega

theorem getElem?_slice {index : ℕ} : (slice bytes offset width)[index]? =
    if index < width then bytes[offset + index]? else none := by
  rw [slice, List.getElem?_take, List.getElem?_drop]

theorem getElem?_splice {index : ℕ} (inside : offset + data.length ≤ bytes.length) :
    (splice bytes offset data)[index]? =
      if offset ≤ index ∧ index < offset + data.length then data[index - offset]?
      else bytes[index]? := by
  induction data generalizing bytes offset with
  | nil =>
    rw [splice, if_neg (by simp)]
  | cons entry data ih =>
    rw [List.length_cons] at inside
    rw [splice, ih (by rw [List.length_set]; omega), List.getElem?_set, List.length_cons]
    by_cases here : index = offset
    · subst here
      rw [if_neg (by omega), if_pos rfl, if_pos (by omega), if_pos (by omega), Nat.sub_self]
      rfl
    · by_cases later : offset + 1 ≤ index ∧ index < offset + 1 + data.length
      · rw [if_pos later, if_pos (by omega)]
        obtain ⟨behind, rfl⟩ : ∃ behind, index = offset + 1 + behind := ⟨index - (offset + 1), by omega⟩
        rw [show offset + 1 + behind - offset = behind + 1 by omega, List.getElem?_cons_succ,
          Nat.add_sub_cancel_left]
      · rw [if_neg later, if_neg (by omega), if_neg (by omega)]

theorem slice_splice (inside : offset + data.length ≤ bytes.length) :
    slice (splice bytes offset data) offset data.length = data := by
  refine List.ext_getElem? fun index => ?_
  rw [getElem?_slice, getElem?_splice inside]
  by_cases within : index < data.length
  · rw [if_pos within, if_pos (by omega), Nat.add_sub_cancel_left]
  · rw [if_neg within, List.getElem?_eq_none (by omega)]

/-- What is written beside a slice leaves it alone. Both sides are allowed, so fields may be
written in any order. -/
theorem slice_splice_apart (inside : offset + data.length ≤ bytes.length)
    (apart : start + count ≤ offset ∨ offset + data.length ≤ start) :
    slice (splice bytes offset data) start count = slice bytes start count := by
  refine List.ext_getElem? fun index => ?_
  rw [getElem?_slice, getElem?_slice, getElem?_splice inside]
  by_cases within : index < count
  · rw [if_pos within, if_pos within, if_neg (by omega)]
  · rw [if_neg within, if_neg within]

theorem slice_append_slice : slice bytes offset width ++ slice bytes (offset + width) count =
    slice bytes offset (width + count) := by
  rw [slice, slice, slice, List.take_add, List.drop_drop]

theorem slice_self : slice bytes 0 bytes.length = bytes := by simp [slice]

end Slices

/-! ### Fields -/

section Fields
variable {bytes other : List UInt8} {widths : List ℕ} {offset start count : ℕ}

/-- The number in a slice. -/
def get (bytes : List UInt8) (offset width : ℕ) : ℕ := decode (slice bytes offset width)

def put (bytes : List UInt8) (offset width value : ℕ) : List UInt8 :=
  splice bytes offset (encode width value)

@[simp] theorem length_put {width value : ℕ} : (put bytes offset width value).length = bytes.length :=
  length_splice

theorem get_put {width value : ℕ} (inside : offset + width ≤ bytes.length)
    (fits : value < 256 ^ width) : get (put bytes offset width value) offset width = value := by
  have whole : slice (put bytes offset width value) offset (encode width value).length =
      encode width value := slice_splice (by rwa [length_encode])
  rw [length_encode] at whole
  rw [get, whole, decode_encode fits]

theorem get_splice_apart {data : List UInt8} (inside : offset + data.length ≤ bytes.length)
    (apart : start + count ≤ offset ∨ offset + data.length ≤ start) :
    get (splice bytes offset data) start count = get bytes start count := by
  rw [get, slice_splice_apart inside apart, get]

/-- Fields that do not overlap do not see each other's writes. -/
theorem get_put_apart {width value : ℕ} (inside : offset + width ≤ bytes.length)
    (apart : start + count ≤ offset ∨ offset + width ≤ start) :
    get (put bytes offset width value) start count = get bytes start count :=
  get_splice_apart (by rwa [length_encode]) (by rwa [length_encode])

/-- The numbers of consecutive fields. -/
def fields (bytes : List UInt8) : ℕ → List ℕ → List ℕ
  | _, [] => []
  | offset, width :: widths => get bytes offset width :: fields bytes (offset + width) widths

theorem slice_eq_of_get {width : ℕ} (inside : offset + width ≤ bytes.length)
    (inside' : offset + width ≤ other.length) (same : get bytes offset width = get other offset width) :
    slice bytes offset width = slice other offset width :=
  decode_inj (by rw [length_slice inside, length_slice inside']) same

/-- Byte strings that agree in all fields of a table agree on the whole range of the table. -/
theorem slice_eq_of_fields (inside : offset + widths.sum ≤ bytes.length)
    (inside' : offset + widths.sum ≤ other.length)
    (same : fields bytes offset widths = fields other offset widths) :
    slice bytes offset widths.sum = slice other offset widths.sum := by
  induction widths generalizing offset with
  | nil => simp [slice]
  | cons width widths ih =>
    rw [List.sum_cons] at inside inside' ⊢
    obtain ⟨first, rest⟩ := List.cons.inj same
    rw [← slice_append_slice, ← slice_append_slice, ih (by omega) (by omega) rest,
      slice_eq_of_get (by omega) (by omega) first]

/-- Fields that cover a byte string without a gap determine it. A decoder that reads all of them
therefore accepts one byte string for each value. -/
theorem eq_of_fields (all : widths.sum = bytes.length) (all' : widths.sum = other.length)
    (same : fields bytes 0 widths = fields other 0 widths) : bytes = other := by
  have whole := slice_eq_of_fields (by omega) (by omega) same
  rwa [all, slice_self, ← all, all', slice_self] at whole

/-- Write consecutive fields, each given by its width and its number. -/
def putFields (bytes : List UInt8) : ℕ → List (ℕ × ℕ) → List UInt8
  | _, [] => bytes
  | offset, (width, value) :: table => putFields (put bytes offset width value) (offset + width) table

variable {table : List (ℕ × ℕ)}

@[simp] theorem length_putFields : (putFields bytes offset table).length = bytes.length := by
  induction table generalizing bytes offset with
  | nil => rfl
  | cons field table ih => rw [putFields, ih, length_put]

/-- A table that is written field by field leaves what is in front of it alone. What is behind it
is treated below. -/
theorem get_putFields_before (before : start + count ≤ offset)
    (inside : offset + (table.map Prod.fst).sum ≤ bytes.length) :
    get (putFields bytes offset table) start count = get bytes start count := by
  induction table generalizing bytes offset with
  | nil => rfl
  | cons field table ih =>
    rw [List.map_cons, List.sum_cons] at inside
    rw [putFields, ih (by omega) (by rw [length_put]; omega),
      get_put_apart (by omega) (.inl before)]

theorem get_putFields_behind (behind : offset + (table.map Prod.fst).sum ≤ start)
    (inside : offset + (table.map Prod.fst).sum ≤ bytes.length) :
    get (putFields bytes offset table) start count = get bytes start count := by
  induction table generalizing bytes offset with
  | nil => rfl
  | cons field table ih =>
    rw [List.map_cons, List.sum_cons] at behind inside
    rw [putFields, ih (by omega) (by rw [length_put]; omega),
      get_put_apart (by omega) (.inr (by omega))]

/-- Consecutive fields read back what was written to them, each value within its own width. -/
theorem fields_putFields (inside : offset + (table.map Prod.fst).sum ≤ bytes.length)
    (fits : ∀ field ∈ table, field.2 < 256 ^ field.1) :
    fields (putFields bytes offset table) offset (table.map Prod.fst) = table.map Prod.snd := by
  induction table generalizing bytes offset with
  | nil => rfl
  | cons field table ih =>
    rw [List.map_cons, List.sum_cons] at inside
    have rest := @ih (put bytes offset field.1 field.2) (offset + field.1)
      (by rw [length_put]; omega) fun other member => fits other (by simp [member])
    have first : get (putFields (put bytes offset field.1 field.2) (offset + field.1) table) offset
        field.1 = field.2 := by
      rw [get_putFields_before (Nat.le_refl _) (by rw [length_put]; omega),
        get_put (by omega) (fits field (by simp))]
    rw [List.map_cons, List.map_cons, fields, putFields, first, rest]

/-- One byte more is the digit above the others, so a field may be read byte by byte. -/
theorem get_succ (inside : offset + width < bytes.length) :
    get bytes offset (width + 1) =
      get bytes offset width + 256 ^ width * (bytes.getD (offset + width) 0).toNat := by
  have digit : slice bytes (offset + width) 1 = [bytes.getD (offset + width) 0] := by
    rw [slice, List.drop_eq_getElem_cons inside, List.getD_eq_getElem?_getD,
      List.getElem?_eq_getElem inside]
    rfl
  rw [get, ← slice_append_slice, decode_append, length_slice (by omega), digit, get]
  simp [decode]
theorem get_lt (inside : offset + count ≤ bytes.length) : get bytes offset count < 256 ^ count := by
  have small := @decode_lt (slice bytes offset count)
  rwa [length_slice inside] at small

/-- A field of eight bytes is a machine word of 64 bits without loss. The narrower words
follow. -/
theorem toNat_word64 (inside : offset + 8 ≤ bytes.length) :
    (UInt64.ofNat (get bytes offset 8)).toNat = get bytes offset 8 :=
  UInt64.toNat_ofNat_of_lt' (get_lt inside)

theorem toNat_word32 (inside : offset + 4 ≤ bytes.length) :
    (UInt32.ofNat (get bytes offset 4)).toNat = get bytes offset 4 :=
  UInt32.toNat_ofNat_of_lt' (get_lt inside)

theorem toNat_word16 (inside : offset + 2 ≤ bytes.length) :
    (UInt16.ofNat (get bytes offset 2)).toNat = get bytes offset 2 :=
  UInt16.toNat_ofNat_of_lt' (get_lt inside)

@[simp] theorem length_fields : (fields bytes offset widths).length = widths.length := by
  induction widths generalizing offset with
  | nil => rfl
  | cons width widths ih => rw [fields, List.length_cons, ih, List.length_cons]

/-- Words of one width are small. -/
theorem fields_replicate_lt {width : ℕ} (inside : offset + width * count ≤ bytes.length) :
    ∀ value ∈ fields bytes offset (List.replicate count width), value < 256 ^ width := by
  induction count generalizing offset with
  | zero => nofun
  | succ count ih =>
    rw [Nat.mul_succ] at inside
    rw [List.replicate_succ, fields, List.forall_mem_cons]
    exact ⟨get_lt (by omega), ih (by omega)⟩

theorem encode_zero {width : ℕ} : encode width 0 = List.replicate width 0 := by
  induction width with
  | zero => rfl
  | succ width ih =>
    rw [encode, Nat.zero_div, ih]
    rfl

/-- A number is zero exactly when all its digits are, so a check for zero is a check of every
byte. -/
theorem decode_eq_zero : decode bytes = 0 ↔ ∀ byte ∈ bytes, byte = 0 := by
  constructor
  · intro zero
    have digits := @encode_decode bytes
    rw [zero, encode_zero] at digits
    rw [← digits]
    exact fun byte member => (List.mem_replicate.mp member).2
  · intro zeros
    rw [List.eq_replicate_of_mem zeros, ← encode_zero, decode_encode (Nat.pow_pos (by decide))]

theorem get_zeros {length : ℕ} : get (List.replicate length 0) start count = 0 := by
  refine decode_eq_zero.mpr fun byte member => ?_
  exact (List.mem_replicate.mp (List.mem_of_mem_drop (List.mem_of_mem_take member))).2

/-! ### Gaps -/

/-- Write consecutive fields, with gaps that are passed over. -/
def putGapped (bytes : List UInt8) : ℕ → List (ℕ × Option ℕ) → List UInt8
  | _, [] => bytes
  | offset, (width, none) :: table => putGapped bytes (offset + width) table
  | offset, (width, some value) :: table =>
    putGapped (put bytes offset width value) (offset + width) table

theorem putFields_append {rest : List (ℕ × ℕ)} : putFields bytes offset (table ++ rest) =
    putFields (putFields bytes offset table) (offset + (table.map Prod.fst).sum) rest := by
  induction table generalizing bytes offset with
  | nil => rfl
  | cons field table ih =>
    rw [List.cons_append, putFields, ih, List.map_cons, List.sum_cons, Nat.add_assoc]
    rfl

theorem fields_append {rest : List ℕ} : fields bytes offset (widths ++ rest) =
    fields bytes offset widths ++ fields bytes (offset + widths.sum) rest := by
  induction widths generalizing offset with
  | nil => rfl
  | cons width widths ih =>
    rw [List.cons_append, fields, ih, List.sum_cons, Nat.add_assoc]
    rfl

/-- Zeros written over zeros change nothing. Padding may so be left out of a serializer that
starts from zeros. -/
theorem put_zero {width : ℕ} (inside : offset + width ≤ bytes.length)
    (zeros : ∀ index, offset ≤ index → index < bytes.length → bytes[index]? = some 0) :
    put bytes offset width 0 = bytes := by
  refine List.ext_getElem? fun index => ?_
  rw [put, getElem?_splice (by rwa [length_encode]), length_encode, encode_zero]
  by_cases here : offset ≤ index ∧ index < offset + width
  · rw [if_pos here, zeros index here.1 (by omega), List.getElem?_replicate, if_pos (by omega)]
  · rw [if_neg here]

/-- Over zeros a gap is a field that holds zero. -/
theorem putGapped_eq {gapped : List (ℕ × Option ℕ)}
    (inside : offset + (gapped.map Prod.fst).sum ≤ bytes.length)
    (zeros : ∀ index, offset ≤ index → index < bytes.length → bytes[index]? = some 0) :
    putGapped bytes offset gapped =
      putFields bytes offset (gapped.map fun field => (field.1, field.2.getD 0)) := by
  induction gapped generalizing bytes offset with
  | nil => rfl
  | cons field gapped ih =>
    obtain ⟨width, value⟩ := field
    rw [List.map_cons, List.sum_cons] at inside
    cases value with
    | none =>
      rw [putGapped, ih (by omega) fun index above => zeros index (by omega), List.map_cons, putFields,
        Option.getD_none, put_zero (by omega) zeros]
    | some value =>
      rw [putGapped, ih (by rw [length_put]; omega), List.map_cons, putFields, Option.getD_some]
      intro index above below
      rw [length_put] at below
      rw [put, getElem?_splice (by rw [length_encode]; omega), length_encode, if_neg (by omega)]
      exact zeros index (by omega) below

end Fields

end Fexma.ByteLayout
