import ChargingRegister.Proofs.Identity.Credentials
import ChargingRegister.Proofs.Password.Key

/-!
# Passwords that are taken for each other

A password is refused when its digest is not the one in the hash. Digests are told apart by what
the cipher sees alone, so every password is taken for the one that repeats it after a zero
character, and one of 72 bytes or more for every longer one that it begins.
-/
namespace ChargingRegister.Identity

open Bcrypt (Salt digestOf keyLimit seen)

/-- What someone is answered who gives a name and a password at an instant. -/
def answer (s : Store) (username password : String) (now : Instant) : Result Bool :=
  ((authenticate username password).run (Store.handle now) s).1

section

variable {s : Store} {id : Int} {username p q : String} {salt : Salt}

theorem answer_of_held (hs : s.HeldBy ⟨id, Text.trim username, Bcrypt.hash salt p⟩)
    (h : Given username q) (now : Instant) :
    answer s username q now = .ok (digestOf salt q == digestOf salt p) := by
  rw [answer, run_authenticate_of_held hs rfl h]

theorem accepted_of_seen_eq (hs : s.HeldBy ⟨id, Text.trim username, Bcrypt.hash salt p⟩)
    (h : Given username q) (hseen : seen q = seen p) (now : Instant) :
    answer s username q now = .ok true := by
  have hdigest : digestOf salt q = digestOf salt p := Bcrypt.digest_of_seen_eq hseen _ _
  rw [answer_of_held hs h, hdigest, beq_self_eq_true]

end

theorem given_append {username p : String} (h : Given username p) (r : String) :
    Given username (p ++ r) := by
  refine ⟨h.1, String.isEmpty_eq_false_iff.mpr fun hempty => ?_⟩
  exact String.isEmpty_eq_false_iff.mp h.2 (String.append_eq_empty_iff.mp hempty).1

/-- Once an administrator was ensured in an unclaimed store, a password is refused just when its
digest is another one. So all that begins with a password of 72 bytes or more is accepted, and so
is any password repeated after a zero character. Where a shorter password goes on with another
character, the cipher sees different bytes, and it would have to make one digest of both. -/
theorem mismatch_refused_iff {s : Store} (hs : s.Unclaimed) (salt : Salt) {username p : String}
    (h : Given username p) (now : Instant) :
    let seeded := (ensureAdministrator salt username p).run (Store.handle now) s
    seeded.1 = .ok true ∧ ∀ now₁,
      (∀ q, q.isEmpty = false →
        (answer seeded.2 username q now₁ = .ok false ↔ digestOf salt q ≠ digestOf salt p)) ∧
      (keyLimit ≤ p.utf8ByteSize → ∀ r, answer seeded.2 username (p ++ r) now₁ = .ok true) ∧
      answer seeded.2 username (p ++ "\x00" ++ p) now₁ = .ok true ∧
      (p.utf8ByteSize < keyLimit → ∀ r c, r.toList.head? = some c → c ≠ '\x00' →
        answer seeded.2 username (p ++ r) now₁ ≠ .ok false →
          seen (p ++ r) ≠ seen p ∧ digestOf salt (p ++ r) = digestOf salt p) := by
  intro seeded
  obtain ⟨hcreated, hheld⟩ := run_ensureAdministrator_of_unclaimed hs salt h now
  refine ⟨hcreated, fun now₁ => ?_⟩
  have hrefused (q : String) (hq : q.isEmpty = false) :
      answer seeded.2 username q now₁ = .ok false ↔ digestOf salt q ≠ digestOf salt p := by
    rw [answer_of_held hheld ⟨h.1, hq⟩]
    exact ⟨fun heq => beq_eq_false_iff_ne.mp (Except.ok.inj heq),
      fun hne => congrArg Except.ok (beq_eq_false_iff_ne.mpr hne)⟩
  refine ⟨hrefused, fun hlong r => ?_, ?_, fun hshort r c hr hc haccepted => ?_⟩
  · exact accepted_of_seen_eq hheld (given_append h r) (Bcrypt.seen_append_of_le hlong r) now₁
  · exact accepted_of_seen_eq hheld (given_append (given_append h _) p)
      (Bcrypt.seen_repeated p) now₁
  · have hdigest := mt (hrefused (p ++ r) (given_append h r).2).mpr haccepted
    exact ⟨Bcrypt.seen_append_ne hshort hc hr, not_not.mp hdigest⟩

/-- A short password that is repeated. -/
theorem mismatch_accepted_after_zero_character :
    let salt : Salt := .replicate 16 7
    let seeded := (ensureAdministrator salt " root" "ab").run (Store.handle (.ofEpoch 0 0))
      (.database .fresh)
    seeded.1 = .ok true ∧ answer seeded.2 " root" "ab\x00ab" (.ofEpoch 1 0) = .ok true := by
  intro salt seeded
  have hgiven : Given " root" "ab" := by decide +kernel
  have hs : (Store.database .fresh).Unclaimed := Store.IsNew.unclaimed (.inr rfl)
  obtain ⟨hcreated, hserved⟩ := mismatch_refused_iff hs salt hgiven (.ofEpoch 0 0)
  have hrepeated : "ab" ++ "\x00" ++ "ab" = "ab\x00ab" := by decide
  obtain ⟨_, _, haccepted, _⟩ := hserved (.ofEpoch 1 0)
  exact ⟨hcreated, hrepeated ▸ haccepted⟩

/-- With one "b" more, a password of 72 times "a" is still accepted. -/
theorem longer_password_accepted :
    let salt : Salt := .replicate 16 7
    let p := String.ofList (List.replicate 72 'a')
    let seeded := (ensureAdministrator salt "root" p).run (Store.handle (.ofEpoch 0 0))
      (.memory .empty)
    seeded.1 = .ok true ∧ answer seeded.2 "root" (p ++ "b") (.ofEpoch 1 0) = .ok true := by
  intro salt p seeded
  have hs : (Store.memory .empty).Unclaimed := Store.IsNew.unclaimed (.inl rfl)
  have hp : Given "root" p := by decide +kernel
  have hlong : keyLimit ≤ p.utf8ByteSize := by decide +kernel
  obtain ⟨hcreated, hheld⟩ := run_ensureAdministrator_of_unclaimed hs salt hp (.ofEpoch 0 0)
  exact ⟨hcreated, accepted_of_seen_eq hheld (given_append hp "b")
    (Bcrypt.seen_append_of_le hlong "b") (.ofEpoch 1 0)⟩

end ChargingRegister.Identity
