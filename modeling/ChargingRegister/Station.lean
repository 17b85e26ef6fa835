import ChargingRegister.Calendar.Instant
import ChargingRegister.Status
import ChargingRegister.Text.Lowercase

/-!
# Charging stations

A station is known by a number that its store assigns; until then the number is zero. Listings
are ordered by the lowercase name, then the name itself, then the number. A station is found by a
text that occurs in its name or its place, character for character once both are lowercase.
-/
namespace ChargingRegister

namespace Text

def occurs (needle : List Char) : List Char → Bool
  | [] => needle.isEmpty
  | c :: hay => needle.isPrefixOf (c :: hay) || occurs needle hay

theorem occurs_iff {needle hay : List Char} : occurs needle hay = true ↔ needle <:+: hay := by
  induction hay with
  | nil => rw [occurs, List.isEmpty_iff, List.infix_nil]
  | cons c hay ih =>
    rw [occurs, Bool.or_eq_true, ih, List.isPrefixOf_iff_prefix, List.infix_cons_iff]

@[simp] theorem occurs_nil (hay : List Char) : occurs [] hay = true :=
  occurs_iff.2 (List.nil_infix)

end Text

structure Station where
  id : Int
  name : String
  location : Option String
  status : Status
  /-- The last time a store wrote the record. -/
  lastUpdated : Option Instant
  deriving DecidableEq

namespace Station

/-- A record that no store has seen yet. -/
def draft (name : String) (location : Option String) (status : Status) : Station :=
  ⟨0, name, location, status, none⟩

/-- The needle, lowercase already, stands in the lowercase name or location. -/
def matchesText (needle : String) (s : Station) : Bool :=
  Text.occurs needle.toList (Text.lowercase s.name).toList ||
    s.location.any fun l => Text.occurs needle.toList (Text.lowercase l).toList

end Station

structure ListingKey where
  folded : String
  name : String
  id : Int
  deriving DecidableEq

namespace ListingKey

/-- Lexicographic, texts by code points. -/
def le (a b : ListingKey) : Bool :=
  if a.folded = b.folded then
    if a.name = b.name then a.id ≤ b.id else a.name < b.name
  else a.folded < b.folded

end ListingKey

def Station.listingKey (s : Station) : ListingKey :=
  ⟨Text.lowercase s.name, s.name, s.id⟩

end ChargingRegister
