import SloCompiler.Value.Basic

namespace SloCompiler

theorem isText_iff {name : String} {v : Value} : v.isText name = true ↔ v = .str name := by
  cases v <;> simp [Value.isText]

namespace Entries

theorem get?_put (entries : Entries) (name other : String) (v : Value) :
    (entries.put name v).get? other = if name = other then some v else entries.get? other := by
  induction entries with
  | nil => by_cases same : name = other <;> simp [put, get?, Value.isText, same]
  | cons entry entries ih =>
    obtain ⟨key, old⟩ := entry
    unfold put
    split
    · next named =>
      obtain rfl := isText_iff.mp named
      by_cases same : name = other <;> simp [get?, Value.isText, same]
    · next unnamed =>
      simp only [get?, ih]
      split
      · next found =>
        have apart : name ≠ other := by
          rintro rfl
          exact unnamed found
        rw [if_neg apart]
      · rfl

theorem filter_put (kept : Value → Bool) (entries : Entries) {name : String} (v : Value)
    (other : kept (.str name) = false) :
    (entries.put name v).filter (kept ·.1) = entries.filter (kept ·.1) := by
  induction entries with
  | nil => simp [put, other]
  | cons entry entries ih =>
    obtain ⟨key, old⟩ := entry
    unfold put
    split
    · next named =>
      obtain rfl := isText_iff.mp named
      simp [other]
    · rw [List.filter_cons, List.filter_cons, ih]

end Entries

end SloCompiler
