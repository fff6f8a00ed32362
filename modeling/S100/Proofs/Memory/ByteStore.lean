import Mathlib.Data.List.Induction
import S100.Proofs.Memory.Loading
import S100.Setup.Image

/-!
# Memory as a byte store

Bytes and words are written into memory, images are loaded into it, whole or
cut off, and all of it is cleared. Each of these keeps within bounds in a way
of its own. A byte past the populated memory is dropped. A word goes around the
end of the address space. An image does not go around: it is cut off where
memory ends, or refused.

For all that, memory is a byte store that is clipped at the populated size. What
it holds at an address is the byte that some call stored there last, since it
was last cleared (`lastStored`). This is said by the calls alone, from the
latest back, and of each call by what it stores at that one address
(`Call.stored`). `read_respond` says what one call changes, `read_after` what
there is after any calls.

An image that is loaded comes to the same as its bytes written one by one, as
far as the address space goes (`load_eq_after_bytewise`), although one is cut
off beforehand and the other drops byte after byte. `clipped_byte_store` puts
it all together.
-/

namespace S100

namespace Memory

/-! ## What is done with a memory -/

inductive Call where
  | write (address : UInt16) (value : UInt8)
  | writeWord (address value : UInt16)
  /-- Load an image as far as memory goes. -/
  | load (address : UInt16) (image : Bytes)
  /-- Load an image whole or not at all. -/
  | loadImage (name : String) (address : UInt16) (image : Bytes)
  | clear
deriving DecidableEq

inductive Answer where
  | done
  | loaded (count : Nat)
  | refused (error : SetupError)
deriving DecidableEq

/-- The answer to a call, and the memory after it. -/
def respond (m : Memory) : Call → Answer × Memory
  | .write address value => (.done, m.write address value)
  | .writeWord address value => (.done, m.writeWord address value)
  | .load address image =>
    (.loaded (m.loadCount address image), m.load address image)
  | .loadImage name address image =>
    match m.loadImage name address image with
    | .ok m => (.done, m)
    | .error error => (.refused error, m)
  | .clear => (.done, m.clear)

/-- The memory after some calls. -/
def after (m : Memory) (calls : List Call) : Memory :=
  calls.foldl (fun m call => (m.respond call).2) m

/-! ## What is stored -/

/-- The byte of an image from an address on that comes to lie at another
address, where one does. The image does not go around the end of the address
space. -/
def imageByte? (address : UInt16) (image : Bytes) (other : UInt16) :
    Option UInt8 :=
  if address.toNat ≤ other.toNat then image[other.toNat - address.toNat]?
  else none

/-- The byte that a call stores at an address, if it stores one there, in a
memory that is populated up to `size`. -/
def Call.stored (size : Nat) (other : UInt16) : Call → Option UInt8
  | .write address value => if address = other then some value else none
  | .writeWord address value =>
    if address = other then some value.toUInt8
    else if (address.toNat + 1) % addressSpace = other.toNat then
      some (value >>> 8).toUInt8
    else none
  | .load address image => imageByte? address image other
  | .loadImage _ address image =>
    if address.toNat + image.size ≤ size then imageByte? address image other
    else none
  | .clear => none

/-- The byte that was stored last at an address since memory was last cleared,
and 0 if none was. -/
def lastStored (size : Nat) (calls : List Call) (other : UInt16) : UInt8 :=
  ((calls.reverse.takeWhile (· ≠ .clear)).findSome?
    (Call.stored size other)).getD 0

/-- Bytes that are written one by one, at a place and at those after it, as far
as the address space goes. -/
def bytewise (place : Nat) (bytes : List UInt8) : List Call :=
  ((bytes.zipIdx place).filter (·.2 < addressSpace)).map
    fun (value, place) => .write (UInt16.ofNat place) value

theorem lastStored_concat (size : Nat) (calls : List Call) (call : Call)
    (other : UInt16) :
    lastStored size (calls ++ [call]) other =
      if call = .clear then 0
      else (call.stored size other).getD (lastStored size calls other) := by
  rw [lastStored, List.reverse_append, List.reverse_singleton,
    List.singleton_append]
  by_cases hclear : call = .clear
  · rw [if_pos hclear, List.takeWhile_cons_of_neg (by simpa using hclear)]
    rfl
  · rw [if_neg hclear, List.takeWhile_cons_of_pos (by simpa using hclear),
      List.findSome?_cons]
    cases call.stored size other <;> rfl

/-! ## One call -/

variable {m : Memory} {address other : UInt16} {image : Bytes}

theorem read_writeWord_of_lt (address value : UInt16)
    (hother : other.toNat < m.size) :
    (m.writeWord address value).read other =
      if address = other then value.toUInt8
      else if (address.toNat + 1) % addressSpace = other.toNat then
        (value >>> 8).toUInt8
      else m.read other := by
  have hnext : address + 1 = other ↔
      (address.toNat + 1) % addressSpace = other.toNat := by
    rw [← UInt16.toNat_inj, toNat_next]
  rw [writeWord, read_write_of_lt _ _ (by rwa [size_write]),
    read_write_of_lt _ _ hother, lowByte_eq_toUInt8, highByte_eq_toUInt8]
  simp only [hnext]
  by_cases hhere : address = other
  · -- the high byte never falls on the low one
    have hapart : (address.toNat + 1) % addressSpace ≠ other.toNat := by
      have hother := other.toNat_lt
      rw [hhere, addressSpace]
      omega
    rw [if_neg hapart, if_pos hhere, if_pos hhere]
  · rw [if_neg hhere, if_neg hhere]

theorem read_load_imageByte? (hother : other.toNat < m.size) :
    (m.load address image).read other =
      (imageByte? address image other).getD (m.read other) := by
  rw [read_load, imageByte?]
  by_cases hfrom : address.toNat ≤ other.toNat
  · rw [if_pos hfrom]
    by_cases hreached : other.toNat < address.toNat + image.size
    · rw [if_pos ⟨hother, hfrom, hreached⟩, byteAt_of_lt (by omega),
        Array.getElem?_eq_getElem (by omega), Option.getD_some]
    · rw [if_neg fun h => hreached h.2.2,
        Array.getElem?_eq_none (by omega), Option.getD_none]
  · rw [if_neg hfrom, if_neg fun h => hfrom h.2.1, Option.getD_none]

theorem respond_loadImage (name : String) :
    m.respond (.loadImage name address image) =
      if address.toNat + image.size ≤ m.size then
        (.done, m.load address image)
      else (.refused (.imageTooLarge name image.size address m.size), m) := by
  rw [respond]
  by_cases hfits : address.toNat + image.size ≤ m.size
  · rw [if_pos hfits, loadImage_of_fits name hfits]
  · rw [if_neg hfits, loadImage_of_exceeds name (Nat.lt_of_not_le hfits)]

theorem size_respond (m : Memory) (call : Call) :
    (m.respond call).2.size = m.size := by
  cases call with
  | write address value => exact size_write m address value
  | writeWord address value => exact size_writeWord m address value
  | load address image => exact size_load m address image
  | loadImage name address image =>
      rw [respond_loadImage]
      split
      · exact size_load m address image
      · rfl
  | clear => exact size_clear m

/-- A call stores at a populated address what it is said to store, and clearing
leaves 0 there. -/
theorem read_respond (call : Call) (hother : other.toNat < m.size) :
    (m.respond call).2.read other =
      if call = .clear then 0
      else (call.stored m.size other).getD (m.read other) := by
  cases call with
  | write address value =>
      rw [if_neg Call.noConfusion, Call.stored]
      refine (read_write_of_lt address value hother).trans ?_
      split <;> rfl
  | writeWord address value =>
      rw [if_neg Call.noConfusion, Call.stored]
      refine (read_writeWord_of_lt address value hother).trans ?_
      split
      · rfl
      · split <;> rfl
  | load address image =>
      rw [if_neg Call.noConfusion]
      exact read_load_imageByte? hother
  | loadImage name address image =>
      rw [if_neg Call.noConfusion, respond_loadImage, Call.stored]
      by_cases hfits : address.toNat + image.size ≤ m.size
      · rw [if_pos hfits, if_pos hfits]
        exact read_load_imageByte? hother
      · rw [if_neg hfits, if_neg hfits, Option.getD_none]
  | clear =>
      rw [if_pos rfl]
      exact read_ofSize m.size other

/-! ## One call after the other -/

theorem size_after (m : Memory) (calls : List Call) :
    (m.after calls).size = m.size := by
  induction calls generalizing m with
  | nil => rfl
  | cons call rest ih => exact (ih _).trans (size_respond m call)

theorem after_concat (m : Memory) (calls : List Call) (call : Call) :
    m.after (calls ++ [call]) = ((m.after calls).respond call).2 :=
  List.foldl_append ..

/-- What has been done to a new memory can be read off it, as far as it is
populated. -/
theorem read_after {size : Nat} (calls : List Call)
    (hother : other.toNat < (ofSize size).size) :
    ((ofSize size).after calls).read other =
      lastStored (ofSize size).size calls other := by
  -- The last call decides, unless it leaves the address to those before it.
  induction calls using List.reverseRecOn with
  | nil => exact read_ofSize size other
  | append_singleton calls call ih =>
      have hsize := size_after (ofSize size) calls
      rw [after_concat, read_respond call (hsize ▸ hother), hsize, ih,
        lastStored_concat]

/-! ## Images byte by byte -/

/-- Bytes that are written one by one, from any place on, are laid over memory
in one piece. -/
theorem bytes_after_bytewise (m : Memory) (place : Nat)
    (bytes : List UInt8) :
    (m.after (bytewise place bytes)).bytes =
      overlay m.bytes place bytes.toArray := by
  induction bytes generalizing m place with
  | nil => exact (overlay_nil m.bytes place).symm
  | cons value rest ih =>
      rw [← overlay_cons, bytewise, List.zipIdx_cons]
      by_cases hplace : place < addressSpace
      · have hwritten : (m.write (UInt16.ofNat place) value).bytes =
            m.bytes.setIfInBounds place value := by
          have hreached : (UInt16.ofNat place).toNat = place := by
            rw [UInt16.toNat_ofNat']
            exact Nat.mod_eq_of_lt hplace
          exact congrArg (m.bytes.setIfInBounds · value) hreached
        rw [List.filter_cons_of_pos (by simpa using hplace), List.map_cons,
          ← hwritten]
        exact ih (m.write (UInt16.ofNat place) value) (place + 1)
      · -- past the end of the address space there is no memory to overlay
        have hdropped : m.bytes.setIfInBounds place value = m.bytes := by
          have hsize := m.size_le
          exact Array.setIfInBounds_eq_of_size_le (by omega)
        rw [List.filter_cons_of_neg (by simpa using hplace), hdropped]
        exact ih m (place + 1)

theorem load_eq_after_bytewise (m : Memory) (address : UInt16)
    (image : Bytes) :
    m.load address image =
      m.after (bytewise address.toNat image.toList) :=
  ext_bytes (bytes_after_bytewise m address.toNat image.toList).symm

/-- As many bytes find a place as have an address in populated memory. -/
theorem loadCount_eq_countP (m : Memory) (address : UInt16) (image : Bytes) :
    m.loadCount address image =
      (List.range image.size).countP (address.toNat + · < m.size) := by
  rw [loadCount]
  induction image.size with
  | zero => exact Nat.zero_min _
  | succ count ih =>
      rw [List.range_succ, List.countP_append, ← ih, List.countP_singleton]
      by_cases hplace : address.toNat + count < m.size
      · rw [if_pos (by simpa using hplace)]
        omega
      · rw [if_neg (by simpa using hplace)]
        omega

/-- A memory of any size is a byte store that is clipped at the end of the
address space, and after any calls it is still populated as far. An address that
is not populated reads 0, any other the byte that was stored there last since
memory was last cleared. A word has its high byte at the next address, which for
the last one is 0. An image that is loaded has the effect of its bytes written
one by one, without going around, and the answer tells how many of them have an
address that is populated. An image that has to fit is stored to its last byte
if it does, and if not nothing changes. -/
theorem clipped_byte_store (size : Nat) (calls : List Call) :
    let m := (ofSize size).after calls
    m.size = min size addressSpace
      ∧ (∀ address, m.read address =
          if address.toNat < m.size then lastStored m.size calls address
          else 0)
      ∧ (∀ address, (m.readWord address).toNat =
          (m.read address).toNat + 256 * (m.read
            (UInt16.ofNat ((address.toNat + 1) % addressSpace))).toNat)
      ∧ (∀ address image,
          let count := (List.range image.size).countP
            (address.toNat + · < m.size)
          m.respond (.load address image) =
            (.loaded count, m.after (bytewise address.toNat image.toList)))
      ∧ ∀ name address image,
          let loaded := m.after (bytewise address.toNat image.toList)
          if address.toNat + image.size ≤ m.size then
            m.respond (.loadImage name address image) = (.done, loaded)
              ∧ ∀ i : Fin image.size,
                loaded.read (address + UInt16.ofNat i) = image[i]
          else m.respond (.loadImage name address image) =
            (.refused (.imageTooLarge name image.size address m.size), m) := by
  intro m
  have hsize : m.size = (ofSize size).size := size_after _ calls
  refine ⟨hsize.trans (size_ofSize size), fun address => ?_,
    fun address => ?_, fun address image => ?_, fun name address image => ?_⟩
  · by_cases hpopulated : address.toNat < m.size
    · rw [if_pos hpopulated, hsize]
      exact read_after calls (hsize ▸ hpopulated)
    · rw [if_neg hpopulated]
      exact read_of_size_le (Nat.le_of_not_lt hpopulated)
  · rw [readWord, toNat_word, ← toNat_next, UInt16.ofNat_toNat]
    omega
  · dsimp only
    rw [← load_eq_after_bytewise, ← loadCount_eq_countP]
    rfl
  · dsimp only
    rw [← load_eq_after_bytewise, respond_loadImage]
    by_cases hfits : address.toNat + image.size ≤ m.size
    · have hspace : m.size ≤ addressSpace := m.size_le
      rw [if_pos hfits, if_pos hfits]
      refine ⟨rfl, fun i => ?_⟩
      have hread : (m.load address image).read (address + UInt16.ofNat i) =
          if address.toNat + i < m.size then image[i] else 0 :=
        read_load_offset m (Nat.le_trans hfits hspace) i.isLt
      rw [hread, if_pos (by omega)]
    · rw [if_neg hfits, if_neg hfits]

/-- An image that is cut off, a word of which the high byte is dropped, and an
image that is refused. -/
example :
    ((ofSize 3).after
      [.load 1 #[1, 2, 3], .writeWord 2 0xBEEF,
        .loadImage "rom" 2 #[7, 8]]).bytes = #[0, 1, 0xEF] := by
  decide

end Memory

end S100
