import Mathlib.Data.List.Forall2

/-! When results of sequences, maps and lists are values, and what their failures are. -/

namespace OrcConversion

variable {ε δ α β γ : Type}

theorem Except.exists_of_isOk {result : Except ε α} (h : result.isOk = true) :
    ∃ value, result = .ok value := by
  cases result with
  | ok value => exact ⟨value, rfl⟩
  | error failure => cases h

theorem Except.ok_bind (value : α) (next : α → Except ε β) :
    ((.ok value : Except ε α) >>= next) = next value := rfl

theorem Except.toOption_eq_some {result : Except ε α} {value : α} :
    result.toOption = some value ↔ result = .ok value := by
  cases result with
  | error failure => simp [Except.toOption]
  | ok first => simp [Except.toOption]

theorem Except.toOption_bind {result : Except ε α} {next : α → Except ε β} :
    (result >>= next).toOption = result.toOption.bind fun value => (next value).toOption := by
  cases result <;> rfl

theorem Except.bind_eq_ok {result : Except ε α} {next : α → Except ε β} {value : β} :
    (result >>= next) = .ok value ↔ ∃ first, result = .ok first ∧ next first = .ok value := by
  cases result with
  | error failure =>
      constructor
      · intro h
        cases h
      · rintro ⟨first, hfirst, _⟩
        cases hfirst
  | ok first =>
      constructor
      · exact fun h => ⟨first, rfl, h⟩
      · rintro ⟨other, hother, h⟩
        cases hother
        exact h

theorem Except.map_eq_ok {result : Except ε α} {f : α → β} {value : β} :
    result.map f = .ok value ↔ ∃ first, result = .ok first ∧ f first = value := by
  cases result with
  | error failure => simp [Except.map]
  | ok first => simp [Except.map]

theorem Except.map_eq_error {result : Except ε α} {f : α → β} {failure : ε} :
    result.map f = .error failure ↔ result = .error failure := by
  cases result with
  | error other => simp [Except.map]
  | ok value => simp [Except.map]

theorem Except.mapError_eq_ok {result : Except ε α} {change : ε → δ} {value : α} :
    result.mapError change = .ok value ↔ result = .ok value := by
  cases result with
  | error failure => simp [Except.mapError]
  | ok first => simp [Except.mapError]

theorem Except.mapError_eq_error {result : Except ε α} {change : ε → δ} {failure : δ} :
    result.mapError change = .error failure ↔
      ∃ cause, result = .error cause ∧ change cause = failure := by
  cases result with
  | error other => simp [Except.mapError]
  | ok value => simp [Except.mapError]

theorem Except.mapM_eq_ok {f : α → Except ε β} {items : List α} {values : List β} :
    items.mapM f = .ok values ↔
      List.Forall₂ (fun item value => f item = .ok value) items values := by
  induction items generalizing values with
  | nil =>
      rw [List.mapM_nil, List.forall₂_nil_left_iff]
      exact ⟨fun h => (Except.ok.inj h).symm, fun h => h ▸ rfl⟩
  | cons item rest ih =>
      rw [List.mapM_cons, List.forall₂_cons_left_iff, bind_eq_ok]
      constructor
      · rintro ⟨first, hfirst, h⟩
        obtain ⟨others, hothers, hvalues⟩ := bind_eq_ok.mp h
        cases hvalues
        exact ⟨first, others, hfirst, ih.mp hothers, rfl⟩
      · rintro ⟨first, others, hfirst, hothers, rfl⟩
        exact ⟨first, hfirst, bind_eq_ok.mpr ⟨others, ih.mpr hothers, rfl⟩⟩

theorem Option.mapM_eq_some {f : α → Option β} {items : List α} {values : List β} :
    items.mapM f = some values ↔
      List.Forall₂ (fun item value => f item = some value) items values := by
  induction items generalizing values with
  | nil => simp [eq_comm]
  | cons item rest ih =>
      rw [List.mapM_cons, List.forall₂_cons_left_iff, Option.bind_eq_bind, Option.bind_eq_some_iff]
      simp only [Option.bind_eq_bind, Option.bind_eq_some_iff, ih, Option.pure_def,
        Option.some.injEq]
      constructor
      · rintro ⟨first, hfirst, others, hothers, rfl⟩
        exact ⟨first, others, hfirst, hothers, rfl⟩
      · rintro ⟨first, others, hfirst, hothers, rfl⟩
        exact ⟨first, hfirst, others, hothers, rfl⟩

/-- A sequence fails with the failure of its first item that has one. -/
theorem Except.mapM_eq_error {f : α → Except ε β} {items : List α} {failure : ε} :
    items.mapM f = .error failure ↔
      ∃ before item after, items = before ++ item :: after ∧
        (∀ other ∈ before, ∃ value, f other = .ok value) ∧ f item = .error failure := by
  constructor
  · intro h
    induction items with
    | nil => cases h
    | cons item rest ih =>
        rw [List.mapM_cons] at h
        cases hfirst : f item with
        | error other =>
            rw [hfirst] at h
            cases h
            exact ⟨[], item, rest, rfl, List.forall_mem_nil _, hfirst⟩
        | ok value =>
            rw [hfirst] at h
            cases hrest : rest.mapM f with
            | ok values =>
                rw [hrest] at h
                cases h
            | error other =>
                rw [hrest] at h
                cases h
                obtain ⟨before, failing, after, rfl, hbefore, hfailing⟩ := ih hrest
                refine ⟨item :: before, failing, after, rfl, ?_, hfailing⟩
                exact List.forall_mem_cons.mpr ⟨⟨value, hfirst⟩, hbefore⟩
  · rintro ⟨before, item, after, rfl, hbefore, hitem⟩
    induction before with
    | nil =>
        rw [List.nil_append, List.mapM_cons, hitem]
        rfl
    | cons first before ih =>
        obtain ⟨⟨value, hvalue⟩, hbefore⟩ := List.forall_mem_cons.mp hbefore
        rw [List.cons_append, List.mapM_cons, hvalue, ok_bind, ih hbefore]
        rfl

theorem Except.mapM_map {f : α → Except ε β} {g : β → γ} (items : List α) :
    items.mapM (fun item => (f item).map g) = (items.mapM f).map (List.map g) := by
  induction items with
  | nil => rfl
  | cons item rest ih =>
      rw [List.mapM_cons, List.mapM_cons, ih]
      cases f item with
      | error failure => rfl
      | ok value => cases rest.mapM f <;> rfl

theorem exists_forall₂_iff {relates : α → β → Prop} {items : List α} :
    (∃ values, List.Forall₂ relates items values) ↔
      ∀ item ∈ items, ∃ value, relates item value := by
  induction items with
  | nil => simp
  | cons item rest ih =>
      rw [List.forall_mem_cons, ← ih]
      constructor
      · rintro ⟨values, h⟩
        obtain ⟨value, others, hvalue, hothers, rfl⟩ := List.forall₂_cons_left_iff.mp h
        exact ⟨⟨value, hvalue⟩, others, hothers⟩
      · rintro ⟨⟨value, hvalue⟩, others, hothers⟩
        exact ⟨value :: others, .cons hvalue hothers⟩

theorem Except.exists_of_mem_mapM {f : α → Except ε β} {items : List α} {values : List β}
    {value : β} (h : items.mapM f = .ok values) (hmem : value ∈ values) :
    ∃ item ∈ items, f item = .ok value := by
  have hrelated := mapM_eq_ok.mp h
  induction hrelated with
  | nil => cases hmem
  | cons hfirst hrest ih =>
      rename_i item first items values
      rcases List.mem_cons.mp hmem with rfl | hmem
      · exact ⟨item, List.mem_cons_self, hfirst⟩
      · obtain ⟨other, hother, heq⟩ := ih (mapM_eq_ok.mpr hrest) hmem
        exact ⟨other, List.mem_cons_of_mem item hother, heq⟩

/-- A fold fails with the failure of its first step that has one. -/
theorem Except.foldlM_eq_error {f : β → α → Except ε β} {start : β} {items : List α}
    {failure : ε} :
    items.foldlM f start = .error failure ↔
      ∃ before item after middle, items = before ++ item :: after ∧
        before.foldlM f start = .ok middle ∧ f middle item = .error failure := by
  constructor
  · intro h
    induction items generalizing start with
    | nil => cases h
    | cons item rest ih =>
        rw [List.foldlM_cons] at h
        cases hfirst : f start item with
        | error other =>
            rw [hfirst] at h
            cases h
            exact ⟨[], item, rest, start, rfl, rfl, hfirst⟩
        | ok next =>
            rw [hfirst] at h
            obtain ⟨before, failing, after, middle, rfl, hbefore, hfailing⟩ := ih h
            refine ⟨item :: before, failing, after, middle, rfl, ?_, hfailing⟩
            rw [List.foldlM_cons]
            exact bind_eq_ok.mpr ⟨next, hfirst, hbefore⟩
  · rintro ⟨before, item, after, middle, rfl, hbefore, hitem⟩
    rw [List.foldlM_append, hbefore]
    change List.foldlM f middle (item :: after) = _
    rw [List.foldlM_cons, hitem]
    rfl

/-- A failure, if there is one, has a property. -/
def Except.Blames (blamed : ε → Prop) (result : Except ε α) : Prop :=
  ∀ failure, result = .error failure → blamed failure

theorem Except.Blames.ok {blamed : ε → Prop} (value : α) :
    Except.Blames blamed (.ok value : Except ε α) := by
  intro failure h
  cases h

theorem Except.Blames.error {blamed : ε → Prop} {failure : ε} (h : blamed failure) :
    Except.Blames blamed (.error failure : Except ε α) := by
  intro other hother
  cases hother
  exact h

theorem Except.Blames.exists_ok {result : Except ε α}
    (h : Except.Blames (fun _ => False) result) : ∃ value, result = .ok value := by
  cases result with
  | ok value => exact ⟨value, rfl⟩
  | error failure => exact (h failure rfl).elim

theorem Except.Blames.imp {blamed accused : ε → Prop} {result : Except ε α}
    (hresult : Except.Blames blamed result) (h : ∀ failure, blamed failure → accused failure) :
    Except.Blames accused result :=
  fun failure hfailure => h failure (hresult failure hfailure)

theorem Except.Blames.bind {blamed : ε → Prop} {result : Except ε α} {next : α → Except ε β}
    (hfirst : Except.Blames blamed result) (hnext : ∀ value, Except.Blames blamed (next value)) :
    Except.Blames blamed (result >>= next) := by
  cases result with
  | ok value => exact hnext value
  | error failure => exact .error (hfirst failure rfl)

theorem Except.Blames.map {blamed : ε → Prop} {result : Except ε α}
    (h : Except.Blames blamed result) (f : α → β) : Except.Blames blamed (result.map f) := by
  cases result with
  | ok value => exact .ok (f value)
  | error failure => exact .error (h failure rfl)

theorem Except.Blames.mapError {blamed : δ → Prop} {change : ε → δ}
    (h : ∀ failure, blamed (change failure)) (result : Except ε α) :
    Except.Blames blamed (result.mapError change) := by
  cases result with
  | ok value => exact .ok value
  | error failure => exact .error (h failure)

theorem Except.Blames.mapError_of {blamed : ε → Prop} {changed : δ → Prop} {change : ε → δ}
    {result : Except ε α} (hresult : Except.Blames blamed result)
    (h : ∀ failure, blamed failure → changed (change failure)) :
    Except.Blames changed (result.mapError change) := by
  cases result with
  | ok value => exact .ok value
  | error failure => exact .error (h failure (hresult failure rfl))

theorem Except.Blames.mapM {blamed : ε → Prop} {f : α → Except ε β}
    (h : ∀ item, Except.Blames blamed (f item)) (items : List α) :
    Except.Blames blamed (items.mapM f) := by
  induction items with
  | nil => exact .ok []
  | cons item rest ih =>
      rw [List.mapM_cons]
      apply (h item).bind
      intro first
      apply ih.bind
      intro others
      exact .ok _

end OrcConversion
