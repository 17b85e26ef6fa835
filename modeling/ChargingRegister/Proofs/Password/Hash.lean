import ChargingRegister.Password.Bcrypt
import ChargingRegister.Proofs.Password.Base64

/-!
# A hash is read back

A hash falls into the parts that it was put together from, because neither the digits of a cost nor
a character of base 64 is a separator. So verifying a password against a hash compares two digests
under the salt and cost of the hash, and the password that was hashed is accepted.
-/
namespace ChargingRegister.Bcrypt

section

variable {cs : List Char} (h : ∀ c ∈ cs, c.utf8Size = 1)
include h

theorem utf8Length_eq_length : utf8Length cs = cs.length := by
  have hfrom (n : Nat) : cs.foldl (fun n c => n + c.utf8Size) n = n + cs.length := by
    induction cs generalizing n with
    | nil => rfl
    | cons c cs ih =>
      obtain ⟨hc, hcs⟩ := List.forall_mem_cons.mp h
      rw [List.foldl_cons, ih hcs, hc, List.length_cons]
      omega
  rw [utf8Length, hfrom, Nat.zero_add]

theorem splitBytes?_length_append (later : List Char) :
    splitBytes? cs.length (cs ++ later) = some (cs, later) := by
  induction cs with
  | nil => rw [List.length_nil, List.nil_append, splitBytes?]
  | cons c cs ih =>
    obtain ⟨hc, hcs⟩ := List.forall_mem_cons.mp h
    rw [List.length_cons, List.cons_append, splitBytes?, hc, if_pos (Nat.le_add_left 1 _),
      Nat.add_sub_cancel, ih hcs]
    rfl

end

theorem cost?_padded {cost : Nat} (h : cost ≤ maxCost) :
    cost? (Decimal.padded 2 cost).toList = some cost ∧ '$' ∉ (Decimal.padded 2 cost).toList := by
  have hall : ∀ n : Fin (maxCost + 1), cost? (Decimal.padded 2 n).toList = some n.val ∧
      '$' ∉ (Decimal.padded 2 n).toList := by decide +kernel
  exact hall ⟨cost, Nat.lt_succ_of_le h⟩

/-- The last part of a hash. -/
def bodyOf (salt bytes : List UInt8) : List Char :=
  Base64.encode salt ++ Base64.encode bytes

section

variable {salt bytes : List UInt8}

theorem plain_of_mem_bodyOf {c : Char} (h : c ∈ bodyOf salt bytes) :
    c.utf8Size = 1 ∧ c ≠ '$' :=
  (List.mem_append.mp h).elim Base64.plain_of_mem_encode Base64.plain_of_mem_encode

theorem utf8Length_bodyOf (hsalt : salt.length = 16) (hbytes : bytes.length = 23) :
    utf8Length (bodyOf salt bytes) = 53 := by
  rw [utf8Length_eq_length fun c hc => (plain_of_mem_bodyOf hc).1, bodyOf, List.length_append,
    Base64.length_encode, Base64.length_encode, hsalt, hbytes]

theorem splitBytes?_bodyOf (hsalt : salt.length = 16) :
    splitBytes? 22 (bodyOf salt bytes) = some (Base64.encode salt, Base64.encode bytes) := by
  have hlength : (Base64.encode salt).length = 22 := by rw [Base64.length_encode, hsalt]
  rw [← hlength]
  exact splitBytes?_length_append (fun c hc => (Base64.plain_of_mem_encode hc).1) _

end

theorem pieces_hashWith {cost : Nat} (h : cost ≤ maxCost) (salt : Salt) (password : String) :
    (Text.split '$' (hashWith cost salt password).toList).filter (!·.isEmpty) =
      [['2', 'b'], (Decimal.padded 2 cost).toList,
        bodyOf salt.toList (digest cost salt.toList (keyOf password))] := by
  obtain ⟨hread, hdigits⟩ := cost?_padded h
  have hdigest := digest_length cost salt.toList (keyOf password)
  generalize hbytes : digest cost salt.toList (keyOf password) = bytes at hdigest ⊢
  have htext : (hashWith cost salt password).toList =
      [] ++ '$' :: (['2', 'b'] ++ '$' :: ((Decimal.padded 2 cost).toList ++ '$' ::
        bodyOf salt.toList bytes)) := by
    simp [hashWith, bodyOf, hbytes]
  have hversion : '$' ∉ ['2', 'b'] := by decide
  have hbody : '$' ∉ bodyOf salt.toList bytes := fun hc => (plain_of_mem_bodyOf hc).2 rfl
  rw [htext, Text.split_append List.not_mem_nil, Text.split_append hversion,
    Text.split_append hdigits, Text.split_of_notMem hbody]
  -- of these four pieces only the one before the first separator is empty
  have hcost : (Decimal.padded 2 cost).toList ≠ [] := by
    intro hnil
    rw [hnil] at hread
    cases hread
  have hfull : bodyOf salt.toList bytes ≠ [] := by
    intro hnil
    have hlength := utf8Length_bodyOf salt.length_toList hdigest
    rw [hnil] at hlength
    cases hlength
  simp [hcost, hfull]

section

variable {cost : Nat} (hcost : cost ≤ maxCost) (salt : Salt) (password : String)
include hcost

theorem parts_hashWith :
    parts (hashWith cost salt password) =
      .ok ⟨cost, Base64.encode salt.toList,
        Base64.encode (digest cost salt.toList (keyOf password))⟩ := by
  have hversion : versions.contains (String.ofList ['2', 'b']) = true := by decide
  have hsalt : salt.toList.length = 16 := salt.length_toList
  rw [parts, pieces_hashWith hcost]
  simp only [hversion, (cost?_padded hcost).1, utf8Length_bodyOf hsalt (digest_length ..),
    splitBytes?_bodyOf hsalt]
  rfl

/-- Only the digests are compared, under the salt and the cost of the hash. -/
theorem verify_hashWith (hcost' : minCost ≤ cost) (other : String) :
    verify other (hashWith cost salt password) =
      .ok (digest cost salt.toList (keyOf other) == digest cost salt.toList (keyOf password)) := by
  have hrange : ¬ (cost < minCost ∨ maxCost < cost) := by omega
  rw [verify, parts_hashWith hcost]
  simp only [Base64.decode_encode, if_neg hrange]

end

def digestOf (salt : Salt) (password : String) : List UInt8 :=
  digest defaultCost salt.toList (keyOf password)

theorem verify_hash (salt : Salt) (password other : String) :
    verify other (hash salt password) = .ok (digestOf salt other == digestOf salt password) :=
  verify_hashWith (by decide) salt password (by decide) other

end ChargingRegister.Bcrypt
