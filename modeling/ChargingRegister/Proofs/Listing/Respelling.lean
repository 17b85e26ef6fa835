import ChargingRegister.Listing
import ChargingRegister.Proofs.Registry.Request
import ChargingRegister.Proofs.Text.Normal

/-!
# Searching for a text in another spelling

A text may be padded with blanks, trimmed or lowercased before it is searched for. What is left of
it after trimming and lowercasing stays the same, and neither a filter nor a store looks at anything
else of it, whatever the store holds and whichever operations fail.
-/
namespace ChargingRegister

namespace Text

/-- The text with blanks at its ends, without them or in lowercase, in any order and as often as
one likes. -/
inductive Respelled (text : String) : String → Prop
  | same : Respelled text text
  | padded {t front back : String} (hfront : ∀ c ∈ front.toList, isBlank c = true)
    (hback : ∀ c ∈ back.toList, isBlank c = true) (h : Respelled text t) :
    Respelled text (front ++ t ++ back)
  | trimmed {t : String} (h : Respelled text t) : Respelled text (trim t)
  | lowered {t : String} (h : Respelled text t) : Respelled text (lowercase t)

theorem Respelled.normal_eq {text variant : String} (h : Respelled text variant) :
    lowercase (trim variant) = lowercase (trim text) := by
  induction h with
  | same => rfl
  | padded hfront hback _ ih => rw [trim_padded hfront hback, ih]
  | trimmed _ ih => rw [trim_trim, ih]
  | lowered _ ih => rw [trim_lowercase, lowercase_lowercase, ih]

theorem blank_eq_isEmpty_normal (s : String) :
    blank s = (lowercase (trim s)).toList.isEmpty := by
  rw [Bool.eq_iff_iff, blank, List.isEmpty_iff, List.isEmpty_iff, toList_lowercase, lowered_eq_nil]

end Text

theorem Store.handle_search_congr {a b : String} (h : Text.lowercase a = Text.lowercase b)
    (now : Instant) : handle now (.search a) = handle now (.search b) := by
  funext s
  cases s with
  | memory m =>
    show ((.ok (listed (m.stations.filter (·.matchesText (Text.lowercase a)))), Store.memory m) :
      Except RegistryError (List Station) × Store) = _
    rw [h]
    rfl
  | database db =>
    have hpattern : Database.searchPattern a = Database.searchPattern b := by
      rw [Database.searchPattern, Database.searchPattern, h]
    have hrows (rows : List StationRow) :
        Database.searchRows a rows = Database.searchRows b rows := by
      simp only [Database.searchRows, hpattern]
      rfl
    obtain ⟨t, u⟩ := db
    cases t with
    | none => rfl
    | some t =>
      show ((Database.searchRows a t.rows, Store.database ⟨some t, u⟩) :
        Except RegistryError (List Station) × Store) = _
      rw [hrows]
      rfl

theorem Probe.handle_search_congr {σ : Type} {inner : Handler σ} {a b : String}
    (h : inner (.search a) = inner (.search b)) :
    handle inner (.search a) = handle inner (.search b) := by
  funext w
  have hop (text : String) : (StoreOp.search text).kind = .search := rfl
  unfold handle
  rw [hop a, hop b, h]
  rfl

/-- A search asks the same of every store that takes two texts for one. -/
theorem Registry.run_search_congr {σ : Type} {handle : Handler σ} {text variant : String}
    (h : Text.lowercase (Text.trim variant) = Text.lowercase (Text.trim text))
    (hsame : handle (.search (Text.trim variant)) = handle (.search (Text.trim text))) (s : σ) :
    (search variant).run handle s = (search text).run handle s := by
  have hblank : Text.blank variant = Text.blank text := by
    rw [Text.blank_eq_isEmpty_normal, h, ← Text.blank_eq_isEmpty_normal]
  cases htext : Text.blank text with
  | true => rw [search_of_blank htext, search_of_blank (hblank.trans htext)]
  | false =>
    rw [search_of_text htext, search_of_text (hblank.trans htext), Program.run_call,
      Program.run_call, hsame]

/-- However a text is padded, trimmed and lowercased, it makes the same filter, which keeps the same
stations and is made again from its own text, and the register answers a search for it the same,
over every store and whichever operations fail. -/
theorem respelled_text_asks_alike {text variant : String} (h : Text.Respelled text variant)
    (status : Option Status) :
    let f := Filter.make text status
    Filter.make variant status = f ∧ Filter.make f.text f.status = f ∧
      (∀ stations, (Filter.make variant status).apply stations = f.apply stations) ∧
      (∀ now s, (Registry.search variant).run (Store.handle now) s =
        (Registry.search text).run (Store.handle now) s) ∧
      ∀ now w, (Registry.search variant).run (Probe.handle (Store.handle now)) w =
        (Registry.search text).run (Probe.handle (Store.handle now)) w := by
  intro f
  have hmake {variant : String} (h : Text.Respelled text variant) :
      Filter.make variant status = f := congrArg (Filter.mk · status) h.normal_eq
  have hown : Text.Respelled text f.text := .lowered (.trimmed .same)
  have hsame (now : Instant) := Store.handle_search_congr h.normal_eq now
  exact ⟨hmake h, hmake hown, fun stations => congrArg (Filter.apply · stations) (hmake h),
    fun now => Registry.run_search_congr h.normal_eq (hsame now),
    fun now => Registry.run_search_congr h.normal_eq (Probe.handle_search_congr (hsame now))⟩

/-- A final sigma before ignorable characters and a capital whose form has two characters. -/
theorem respelled_text_about_sigma_and_dotted_capital :
    let text := "\u3000İΟΔΟΣ\u200B\u00AD \u0085"
    let variant := "\t" ++ Text.lowercase (" " ++ text ++ "\u2028") ++ ""
    Filter.make variant none = Filter.make text none ∧
      (Filter.make variant none).text = "i\u0307οδος\u200B\u00AD" := by
  intro text variant
  have hrespelled : Text.Respelled text variant :=
    .padded (List.all_eq_true.mp (by decide)) (List.all_eq_true.mp (by decide))
      (.lowered (.padded (List.all_eq_true.mp (by decide)) (List.all_eq_true.mp (by decide)) .same))
  have hmake := (respelled_text_asks_alike hrespelled none).1
  refine ⟨hmake, ?_⟩
  rw [hmake]
  decide +kernel

end ChargingRegister
