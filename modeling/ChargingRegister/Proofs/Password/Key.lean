import ChargingRegister.Password.Bcrypt
import ChargingRegister.Text.Utf8

/-!
# What the cipher sees of a password

The cipher draws 72 bytes from a key that starts over when it ends. A password is closed by a zero
byte, so passwords that differ can still give the same bytes: those that differ behind the limit,
and those of which one repeats the other after a zero character.
-/
namespace ChargingRegister.Bcrypt

/-- Bytes drawn one by one from what is left of a key, which starts over when it ends. -/
def draw (key : List UInt8) : Nat → List UInt8 → List UInt8
  | 0, _ => []
  | n + 1, b :: rest => b :: draw key n rest
  | n + 1, [] =>
    match key with
    | [] => 0 :: draw key n []
    | b :: rest => b :: draw key n rest

/-- What is left of the key after so many bytes. -/
def left (key : List UInt8) : Nat → List UInt8 → List UInt8
  | 0, rest => rest
  | n + 1, _ :: rest => left key n rest
  | n + 1, [] =>
    match key with
    | [] => left key n []
    | _ :: rest => left key n rest

@[simp] theorem length_draw (key : List UInt8) (n : Nat) (rest : List UInt8) :
    (draw key n rest).length = n := by
  induction n generalizing rest with
  | zero => rfl
  | succ n ih =>
    cases rest with
    | cons b rest => rw [draw, List.length_cons, ih]
    | nil => cases key <;> rw [draw, List.length_cons, ih]

theorem draw_add (key : List UInt8) (m n : Nat) (rest : List UInt8) :
    draw key (m + n) rest = draw key m rest ++ draw key n (left key m rest) := by
  induction m generalizing rest with
  | zero => rw [Nat.zero_add, draw, left, List.nil_append]
  | succ m ih =>
    rw [Nat.succ_add]
    cases rest with
    | cons b rest => rw [draw, draw, left, ih, List.cons_append]
    | nil => cases key <;> rw [draw, draw, left, ih, List.cons_append]

/-- A word is put together from the bytes that are drawn. -/
theorem takeWord_eq (key : List UInt8) (n : Nat) (acc : UInt32) (rest : List UInt8) :
    takeWord key n acc rest =
      ((draw key n rest).foldl (fun (word : UInt32) b => word <<< 8 ||| b.toUInt32) acc,
        left key n rest) := by
  induction n generalizing acc rest with
  | zero => rfl
  | succ n ih =>
    cases rest with
    | cons b rest => rw [takeWord, draw, left, ih, List.foldl_cons]
    | nil =>
      cases key with
      | cons b key => rw [takeWord, draw, left, ih, List.foldl_cons]
      | nil =>
        have hzero : acc <<< 8 ||| (0 : UInt8).toUInt32 = acc <<< 8 := UInt32.or_zero
        rw [takeWord, draw, left, ih, List.foldl_cons, hzero]

section

variable {key key' : List UInt8}

theorem wordsOf_congr {n : Nat} {rest rest' : List UInt8}
    (h : draw key (4 * n) rest = draw key' (4 * n) rest') :
    wordsOf key n rest = wordsOf key' n rest' := by
  induction n generalizing rest rest' with
  | zero => rfl
  | succ n ih =>
    rw [Nat.mul_succ, Nat.add_comm, draw_add, draw_add] at h
    obtain ⟨hword, hlater⟩ := List.append_inj h (by rw [length_draw, length_draw])
    rw [wordsOf, wordsOf, takeWord_eq, takeWord_eq, hword, ih hlater]

theorem digest_congr (h : draw key keyLimit key = draw key' keyLimit key') (cost : Nat)
    (salt : List UInt8) : digest cost salt key = digest cost salt key' := by
  have hwords : keyWords key = keyWords key' := congrArg List.toArray (wordsOf_congr h)
  rw [digest, digest, cipher, cipher, hwords]

end

section

variable {key : List UInt8} (hkey : key ≠ [])
include hkey

theorem draw_append_self (n : Nat) (rest : List UInt8) :
    draw key n (rest ++ key) = draw key n rest := by
  induction n generalizing rest with
  | zero => rfl
  | succ n ih =>
    cases rest with
    | cons b rest => rw [List.cons_append, draw, draw, ih]
    | nil =>
      cases key with
      | nil => exact absurd rfl hkey
      | cons b key => rw [List.nil_append, draw, draw]

theorem draw_twice (n : Nat) (rest : List UInt8) :
    draw (key ++ key) n rest = draw key n rest := by
  induction n generalizing rest with
  | zero => rfl
  | succ n ih =>
    cases rest with
    | cons b rest => rw [draw, draw, ih]
    | nil =>
      cases key with
      | nil => exact absurd rfl hkey
      | cons b key =>
        rw [List.cons_append, draw, draw, ← List.cons_append, ih, draw_append_self hkey]

end

section

variable (key : List UInt8) {n : Nat} {rest : List UInt8}

/-- The key starts over only after its last byte. -/
theorem draw_eq_take_append (n : Nat) (rest : List UInt8) :
    draw key n rest = rest.take n ++ draw key (n - rest.length) [] := by
  induction n generalizing rest with
  | zero => rw [Nat.zero_sub, draw, draw, List.take_zero, List.append_nil]
  | succ n ih =>
    cases rest with
    | nil => rfl
    | cons b rest =>
      rw [draw, ih, List.take_succ_cons, List.cons_append, List.length_cons,
        Nat.add_sub_add_right]

theorem draw_of_le (h : n ≤ rest.length) : draw key n rest = rest.take n := by
  rw [draw_eq_take_append, Nat.sub_eq_zero_of_le h, draw, List.append_nil]

theorem getElem?_draw {i : Nat} (hi : i < n) (h : i < rest.length) :
    (draw key n rest)[i]? = rest[i]? := by
  have hlength : i < (rest.take n).length := by
    rw [List.length_take]
    omega
  rw [draw_eq_take_append, List.getElem?_append_left hlength, List.getElem?_take_of_lt hi]

end

theorem toList_eq_data (bytes : ByteArray) : bytes.toList = bytes.data.toList := by
  have hloop : ∀ i read, ByteArray.toList.loop bytes i read =
      read.reverse ++ bytes.data.toList.drop i := by
    intro i read
    induction i, read using ByteArray.toList.loop.induct bytes with
    | case1 i read hlt ih =>
      have hi : i < bytes.data.toList.length := by simpa using hlt
      have hget : bytes.get! i = bytes.data.toList[i] := by
        rw [Array.getElem_toList]
        exact getElem!_pos bytes.data i hlt
      rw [ByteArray.toList.loop, if_pos hlt, ih, hget, List.drop_eq_getElem_cons hi]
      simp
    | case2 i read hge =>
      have hi : bytes.data.toList.length ≤ i := by simpa using hge
      rw [ByteArray.toList.loop, if_neg hge, List.drop_eq_nil_of_le hi, List.append_nil]
  rw [ByteArray.toList, hloop]
  simp

theorem toList_toUTF8 (text : String) : text.toUTF8.toList = Utf8.encode text.toList := by
  have hchars : text.toUTF8 = text.toList.utf8Encode := by
    rw [String.toUTF8_eq_toByteArray, ← String.toByteArray_ofList, String.ofList_toList]
  rw [toList_eq_data, hchars, List.utf8Encode, List.data_toByteArray, Utf8.encode]

theorem length_encode (text : String) :
    (Utf8.encode text.toList).length = text.utf8ByteSize := by
  rw [← toList_toUTF8, toList_eq_data, Array.length_toList, ByteArray.size_data,
    String.toUTF8_eq_toByteArray, String.size_toByteArray]

/-- Only a zero character begins with a zero byte. -/
theorem utf8EncodeChar_eq_cons {c : Char} (h : c ≠ '\x00') :
    ∃ b bytes, String.utf8EncodeChar c = b :: bytes ∧ b ≠ 0 := by
  have hlead : ∀ n, 0 < n → n < 256 → UInt8.ofNat n ≠ 0 := by
    intro n hpos hlt hzero
    rw [UInt8.ofNat_eq_iff_mod_eq_toNat] at hzero
    change n % 256 = 0 at hzero
    omega
  fun_cases String.utf8EncodeChar c with
  | case1 v hv =>
    have hpos : v ≠ 0 := fun hzero => h (Char.toNat_inj.mp hzero)
    exact ⟨_, _, rfl, hlead v (by omega) (by omega)⟩
  | case2 v | case3 v | case4 v => exact ⟨_, _, rfl, hlead _ (by omega) (by omega)⟩

/-- The bytes of a password and the zero byte behind them, before any are cut off. -/
def closed (password : String) : List UInt8 :=
  Utf8.encode password.toList ++ [0]

/-- The bytes that the cipher draws from a password. -/
def seen (password : String) : List UInt8 :=
  draw (keyOf password) keyLimit (keyOf password)

theorem digest_of_seen_eq {p q : String} (h : seen q = seen p) (cost : Nat)
    (salt : List UInt8) : digest cost salt (keyOf q) = digest cost salt (keyOf p) :=
  digest_congr h cost salt

/-- What is cut off would not be drawn anyway. -/
theorem seen_eq (password : String) :
    seen password = draw (closed password) keyLimit (closed password) := by
  have hkey : keyOf password = (closed password).take keyLimit := by
    rw [keyOf, toList_toUTF8, closed]
  rw [seen, hkey]
  rcases Nat.le_total (closed password).length keyLimit with hshort | hlong
  · rw [List.take_of_length_le hshort]
  · have hlength : keyLimit ≤ ((closed password).take keyLimit).length := by
      rw [List.length_take]
      omega
    rw [draw_of_le _ hlength, draw_of_le _ hlong, List.take_take, Nat.min_self]

variable {p r : String}

theorem closed_append (p r : String) : closed (p ++ r) = Utf8.encode p.toList ++ closed r := by
  rw [closed, closed, String.toList_append, Utf8.encode, List.flatMap_append, List.append_assoc]
  rfl

/-- What follows 72 bytes is not seen. -/
theorem seen_append_of_le (h : keyLimit ≤ p.utf8ByteSize) (r : String) :
    seen (p ++ r) = seen p := by
  rw [← length_encode] at h
  have hlength (bytes : List UInt8) : keyLimit ≤ (Utf8.encode p.toList ++ bytes).length := by
    rw [List.length_append]
    omega
  have hclosed : closed p = Utf8.encode p.toList ++ [0] := rfl
  rw [seen_eq, seen_eq, closed_append, hclosed, draw_of_le _ (hlength _), draw_of_le _ (hlength _),
    List.take_append_of_le_length h, List.take_append_of_le_length h]

/-- A password looks the same when it is repeated after a zero character. -/
theorem seen_repeated (p : String) : seen (p ++ "\x00" ++ p) = seen p := by
  have hclosed : closed (p ++ "\x00" ++ p) = closed p ++ closed p := by
    rw [String.append_assoc, closed_append, closed_append]
    show Utf8.encode p.toList ++ ([0] ++ closed p) = Utf8.encode p.toList ++ [0] ++ closed p
    rw [List.append_assoc]
  have hkey : closed p ≠ [] := List.append_ne_nil_of_right_ne_nil _ (List.cons_ne_nil _ _)
  rw [seen_eq, seen_eq, hclosed, draw_twice hkey, draw_append_self hkey]

/-- A longer password looks different when the shorter one ends before the limit, unless a zero
character follows it. -/
theorem seen_append_ne (h : p.utf8ByteSize < keyLimit) {c : Char} (hc : c ≠ '\x00')
    (hr : r.toList.head? = some c) : seen (p ++ r) ≠ seen p := by
  obtain ⟨cs, hcs⟩ := List.head?_eq_some_iff.mp hr
  obtain ⟨b, bytes, hb, hzero⟩ := utf8EncodeChar_eq_cons hc
  have hclosed : closed r = b :: (bytes ++ Utf8.encode cs ++ [0]) := by
    rw [closed, hcs, Utf8.encode, List.flatMap_cons, hb]
    rfl
  -- the byte where the shorter password ends
  have hat (k : String) {b' : UInt8} (hk : (closed k)[p.utf8ByteSize]? = some b') :
      (seen k)[p.utf8ByteSize]? = some b' := by
    obtain ⟨hlt, -⟩ := List.getElem?_eq_some_iff.mp hk
    rw [seen_eq, getElem?_draw _ h hlt, hk]
  have hend : (seen p)[p.utf8ByteSize]? = some 0 := by
    refine hat p ?_
    rw [closed, ← length_encode]
    exact List.getElem?_concat_length
  have hgoes : (seen (p ++ r))[p.utf8ByteSize]? = some b := by
    refine hat _ ?_
    rw [closed_append, hclosed, ← length_encode, List.getElem?_append_right (Nat.le_refl _),
      Nat.sub_self]
    rfl
  intro heq
  rw [heq, hend] at hgoes
  exact hzero (Option.some.inj hgoes).symm

end ChargingRegister.Bcrypt
