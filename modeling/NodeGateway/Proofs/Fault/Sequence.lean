import NodeGateway.Fault

/-!
# Steps That May Fail, One After Another

If something is done with every item of a list and each step may fail, then the results are those of
the steps in their order (`mapM_eq_ok_iff`), and otherwise the first failure in the order of the
items is that of the whole (`mapM_eq_error_iff`).
-/

namespace NodeGateway

variable {ε α β : Type} {step : α → Except ε β} {items : List α}

/-- The steps have results exactly if each of them has one. -/
theorem mapM_eq_ok_iff {values : List β} :
    items.mapM step = .ok values ↔ items.map step = values.map .ok := by
  induction items generalizing values with
  | nil =>
      rw [List.mapM_nil, List.map_nil, eq_comm (a := []), List.map_eq_nil_iff]
      exact ⟨fun h => (Except.ok.inj h).symm, fun h => h ▸ rfl⟩
  | cons item rest ih =>
      rw [List.mapM_cons, List.map_cons]
      cases hitem : step item with
      | error fault => cases values <;> simp [bind, Except.bind]
      | ok value =>
          cases values with
          | nil => cases hrest : rest.mapM step <;> simp [bind, Except.bind, pure, Except.pure]
          | cons v vs =>
              rw [List.map_cons, List.cons.injEq, ← ih]
              cases hrest : rest.mapM step <;> simp [bind, Except.bind, pure, Except.pure]

/-- The first step that fails is the failure of all of them. -/
theorem mapM_eq_error_iff {fault : ε} :
    items.mapM step = .error fault ↔
      ∃ before item after, items = before ++ item :: after ∧
        (∀ other ∈ before, ∃ value, step other = .ok value) ∧ step item = .error fault := by
  constructor
  · intro h
    induction items with
    | nil => exact nomatch h
    | cons item rest ih =>
        rw [List.mapM_cons] at h
        cases hitem : step item with
        | error found =>
            rw [hitem] at h
            exact ⟨[], item, rest, rfl, by simp,
              hitem.trans (congrArg Except.error (Except.error.inj h))⟩
        | ok value =>
            rw [hitem] at h
            cases hrest : rest.mapM step with
            | ok values => rw [hrest] at h; exact nomatch h
            | error found =>
                rw [hrest] at h
                obtain ⟨before, failed, after, rfl, hbefore, hfailed⟩ := ih (hrest.trans h)
                exact ⟨item :: before, failed, after, rfl,
                  List.forall_mem_cons.mpr ⟨⟨value, hitem⟩, hbefore⟩, hfailed⟩
  · rintro ⟨before, item, after, rfl, hbefore, hitem⟩
    induction before with
    | nil => simp [hitem, bind, Except.bind]
    | cons first before ih =>
        obtain ⟨⟨value, hfirst⟩, hrest⟩ := List.forall_mem_cons.mp hbefore
        rw [List.cons_append, List.mapM_cons, hfirst]
        simp only [bind, Except.bind] at ih ⊢
        rw [ih hrest]

end NodeGateway
