/-!
# Outcomes of steps that can fail

A chain of steps that can fail has succeeded exactly when every step has, so what each step
establishes or keeps holds of the whole.

* `bind_eq_ok_iff`, `bind_eq_error_iff`: two steps.
* `preserved_of_foldlM`, `exists_of_mem_foldlM`, `exists_of_mem_mapM`: as many steps as a list has
  members.
-/

namespace VparFleet

variable {ε α β : Type}

/-- Two outcomes in a row are good if both are. -/
theorem bind_eq_ok_iff {outcome : Except ε α} {k : α → Except ε β} {b : β} :
    outcome >>= k = .ok b ↔ ∃ a, outcome = .ok a ∧ k a = .ok b := by
  cases outcome with
  | error e => exact ⟨nofun, fun ⟨_, he, _⟩ => nomatch he⟩
  | ok a => exact ⟨fun h => ⟨a, rfl, h⟩, fun ⟨_, ha, h⟩ => Except.ok.inj ha ▸ h⟩

/-- Otherwise the first fault is the fault of both. -/
theorem bind_eq_error_iff {outcome : Except ε α} {k : α → Except ε β} {e : ε} :
    outcome >>= k = .error e ↔ outcome = .error e ∨ ∃ a, outcome = .ok a ∧ k a = .error e := by
  cases outcome with
  | error d =>
    constructor
    · intro h
      exact Or.inl (congrArg Except.error (Except.error.inj h))
    · rintro (h | ⟨_, ha, _⟩)
      · exact congrArg Except.error (Except.error.inj h)
      · exact nomatch ha
  | ok a =>
    constructor
    · intro h
      exact Or.inr ⟨a, rfl, h⟩
    · rintro (h | ⟨_, ha, h⟩)
      · exact nomatch h
      · exact Except.ok.inj ha ▸ h

/-- What every step keeps is kept by all steps in a row. -/
theorem preserved_of_foldlM {holds : β → Prop} {f : β → α → Except ε β} {list : List α}
    (hstep : ∀ b, ∀ a ∈ list, ∀ b', holds b → f b a = .ok b' → holds b') {b b' : β}
    (hb : holds b) (h : list.foldlM f b = .ok b') : holds b' := by
  induction list generalizing b with
  | nil => exact Except.ok.inj h ▸ hb
  | cons a list ih =>
    rw [List.foldlM_cons] at h
    obtain ⟨next, hnext, hrest⟩ := bind_eq_ok_iff.mp h
    have hfirst := hstep b a List.mem_cons_self next hb hnext
    exact ih (fun b a' ha' => hstep b a' (List.mem_cons_of_mem a ha')) hfirst hrest

/-- Every step has succeeded. -/
theorem exists_of_mem_foldlM {f : β → α → Except ε β} {list : List α} {b b' : β}
    (h : list.foldlM f b = .ok b') {a : α} (ha : a ∈ list) :
    ∃ before after, f before a = .ok after := by
  induction list generalizing b with
  | nil => exact nomatch ha
  | cons first list ih =>
    rw [List.foldlM_cons] at h
    obtain ⟨next, hnext, hrest⟩ := bind_eq_ok_iff.mp h
    rcases List.mem_cons.mp ha with rfl | ha
    · exact ⟨b, next, hnext⟩
    · exact ih hrest ha

/-- Every result is that of a member. -/
theorem exists_of_mem_mapM {f : α → Except ε β} {list : List α} {results : List β}
    (h : list.mapM f = .ok results) {b : β} (hb : b ∈ results) : ∃ a ∈ list, f a = .ok b := by
  induction list generalizing results with
  | nil =>
    obtain rfl : [] = results := Except.ok.inj h
    exact nomatch hb
  | cons a list ih =>
    rw [List.mapM_cons] at h
    obtain ⟨first, hfirst, hrest⟩ := bind_eq_ok_iff.mp h
    obtain ⟨rest, hmapped, hresults⟩ := bind_eq_ok_iff.mp hrest
    obtain rfl : first :: rest = results := Except.ok.inj hresults
    rcases List.mem_cons.mp hb with rfl | hb
    · exact ⟨a, List.mem_cons_self, hfirst⟩
    · obtain ⟨a', hmem, ha'⟩ := ih hmapped hb
      exact ⟨a', List.mem_cons_of_mem a hmem, ha'⟩

end VparFleet
