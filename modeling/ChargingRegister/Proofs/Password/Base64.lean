import ChargingRegister.Password.Base64

/-!
# Base 64 is read back

An encoding writes down values of six bits, a character for each. The characters say which values
these are, and the values say which bytes they came from: three bytes to a group, and one or two
at the end by a rule of their own.
-/
namespace ChargingRegister.Base64

/-- The values that the characters of an encoding stand for. -/
def sextets : List UInt8 → List Nat
  | a :: b :: c :: rest =>
    let n := (a.toNat * 256 + b.toNat) * 256 + c.toNat
    n / 262144 :: n / 4096 % 64 :: n / 64 % 64 :: n % 64 :: sextets rest
  | [a, b] =>
    let n := (a.toNat * 256 + b.toNat) * 4
    [n / 4096, n / 64 % 64, n % 64]
  | [a] =>
    let n := a.toNat * 16
    [n / 64, n % 64]
  | [] => []

theorem encode_eq_map (bytes : List UInt8) : encode bytes = (sextets bytes).map charOf := by
  induction bytes using sextets.induct with
  | case1 a b c rest ih =>
    rw [encode, ih]
    rfl
  | case2 | case3 | case4 => rfl

theorem length_sextets (bytes : List UInt8) :
    (sextets bytes).length = (bytes.length * 8 + 5) / 6 := by
  induction bytes using sextets.induct with
  | case1 a b c rest ih =>
    simp only [sextets, List.length_cons, ih]
    omega
  | case2 | case3 => simp [sextets]
  | case4 => rfl

theorem sextets_lt (bytes : List UInt8) : ∀ n ∈ sextets bytes, n < 64 := by
  induction bytes using sextets.induct with
  | case1 a b c rest ih =>
    have ha := a.toNat_lt
    have hb := b.toNat_lt
    have hc := c.toNat_lt
    simp only [sextets, List.forall_mem_cons]
    exact ⟨by omega, by omega, by omega, by omega, ih⟩
  | case2 a b =>
    have ha := a.toNat_lt
    have hb := b.toNat_lt
    simp only [sextets, List.forall_mem_cons]
    exact ⟨by omega, by omega, by omega, List.forall_mem_nil _⟩
  | case3 a =>
    have ha := a.toNat_lt
    simp only [sextets, List.forall_mem_cons]
    exact ⟨by omega, by omega, List.forall_mem_nil _⟩
  | case4 => exact List.forall_mem_nil _

/-- The bits of a last group that belong to no byte are zero, so every encoding is accepted. -/
theorem decodeValues_sextets (bytes : List UInt8) : decodeValues (sextets bytes) = some bytes := by
  -- `hgroup` puts the bits of a group together again, `hspare` finds none left over
  induction bytes using sextets.induct with
  | case1 a b c rest ih =>
    have ha := a.toNat_lt
    have hb := b.toNat_lt
    have hc := c.toNat_lt
    have hgroup : ∀ n,
        ((n / 262144 * 64 + n / 4096 % 64) * 64 + n / 64 % 64) * 64 + n % 64 = n := by omega
    have hfirst : ((a.toNat * 256 + b.toNat) * 256 + c.toNat) / 65536 = a.toNat := by omega
    have hsecond : ((a.toNat * 256 + b.toNat) * 256 + c.toNat) / 256 % 256 = b.toNat := by omega
    have hthird : ((a.toNat * 256 + b.toNat) * 256 + c.toNat) % 256 = c.toNat := by omega
    simp only [sextets, decodeValues, ih, Option.map_some, hgroup, hfirst, hsecond, hthird,
      UInt8.ofNat_toNat]
  | case2 a b =>
    have ha := a.toNat_lt
    have hb := b.toNat_lt
    have hgroup : ∀ n, (n / 4096 * 64 + n / 64 % 64) * 64 + n % 64 = n := by omega
    have hspare : (a.toNat * 256 + b.toNat) * 4 % 4 = 0 := by omega
    have hfirst : (a.toNat * 256 + b.toNat) * 4 / 1024 = a.toNat := by omega
    have hsecond : (a.toNat * 256 + b.toNat) * 4 / 4 % 256 = b.toNat := by omega
    simp only [sextets, decodeValues, hgroup, hspare, if_pos, hfirst, hsecond, UInt8.ofNat_toNat]
  | case3 a =>
    have hgroup : ∀ n, n / 64 * 64 + n % 64 = n := by omega
    have hspare : a.toNat * 16 % 16 = 0 := by omega
    have hbyte : a.toNat * 16 / 16 = a.toNat := by omega
    simp only [sextets, decodeValues, hgroup, hspare, if_pos, hbyte, UInt8.ofNat_toNat]
  | case4 => rfl

theorem mapM_valueOf?_charOf {values : List Nat} (h : ∀ n ∈ values, n < 64) :
    (values.map charOf).mapM valueOf? = some values := by
  induction values with
  | nil => rfl
  | cons n values ih =>
    obtain ⟨hn, hvalues⟩ := List.forall_mem_cons.mp h
    rw [List.map_cons, List.mapM_cons, valueOf?_charOf hn, ih hvalues]
    rfl

theorem decode_encode (bytes : List UInt8) : decode (encode bytes) = some bytes := by
  rw [decode, encode_eq_map, mapM_valueOf?_charOf (sextets_lt bytes)]
  exact decodeValues_sextets bytes

theorem length_encode (bytes : List UInt8) :
    (encode bytes).length = (bytes.length * 8 + 5) / 6 := by
  rw [encode_eq_map, List.length_map, length_sextets]

/-- The characters of an encoding take a byte each, and none of them is a dollar sign. -/
theorem plain_of_mem_encode {bytes : List UInt8} {c : Char} (h : c ∈ encode bytes) :
    c.utf8Size = 1 ∧ c ≠ '$' := by
  rw [encode_eq_map] at h
  obtain ⟨n, hn, rfl⟩ := List.mem_map.mp h
  have hall : ∀ m : Fin 64, (charOf m).utf8Size = 1 ∧ charOf m ≠ '$' := by decide
  exact hall ⟨n, sextets_lt bytes n hn⟩

end ChargingRegister.Base64
