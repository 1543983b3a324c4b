import Monomorph.View

/-!
Histories of views. A history lists what happens to the views of a memory, by whoever does it, and the
views at any point are got by replaying it up to there. If every event of a history can happen where it
stands, then no view comes back to life, no transfer is taken back, and a view whose call has ended is
live exactly if it was transferred and its holder did not release it.
-/

namespace Monomorph

/-- Something that happens to the views of a memory, or is seen of them. -/
inductive Event where
  | made (view : View)
  /-- The holder of a view releases it. -/
  | dropped (number : Nat)
  /-- What a view borrows is asked for, to be taken over. -/
  | detached (number : Nat)
  /-- A call that was given the view ends. -/
  | expired (number : Nat)
  /-- A program looks at the memory. -/
  | seen (views : List View)
  /-- A call has ended that made the views from a first number up to a last one. -/
  | ended (first last : Nat)

/-- A view after it was asked for what it borrows. -/
def View.detach (v : View) : View :=
  match v.content with
  | .ok _ => { v with transferred := true }
  | .error _ => v

namespace Event

/-- What an event makes of the view with some number. -/
def change (e : Event) (number : Nat) (v : View) : View :=
  match e with
  | dropped n => if n = number then v.drop else v
  | detached n => if n = number then v.detach else v
  | expired n => if n = number then v.expire else v
  | _ => v

/-- The views after an event. -/
def apply (views : List View) : Event → List View
  | made v => views ++ [v]
  | dropped n => views.modify n View.drop
  | detached n => views.modify n View.detach
  | expired n => views.modify n View.expire
  | seen _ => views
  | ended .. => views

/-- Can an event happen to some views? A new view is live, of some type and not transferred. Nobody can
release a view that does not exist. What is seen is what there is. And the end of a call has released
all the views of the call that were not transferred. -/
def Happens (views : List View) : Event → Prop
  | made v => v.isValid = true ∧ v.transferred = false ∧ v.type.isSome
  | dropped n => n < views.length
  | detached _ => True
  | expired _ => True
  | seen ws => ws = views
  | ended first last => last ≤ views.length ∧
      ∀ (n : Nat) (v : View), first ≤ n → n < last → views[n]? = some v → v.isValid = true → v.transferred = true

end Event

/-- The views after a history. -/
def replay (views : List View) (events : List Event) : List View := events.foldl Event.apply views

/-- Can every event of a history happen where it stands? -/
def Admits : List View → List Event → Prop
  | _, [] => True
  | views, e :: events => e.Happens views ∧ Admits (e.apply views) events

theorem replay_append (views : List View) (events later : List Event) :
    replay views (events ++ later) = replay (replay views events) later :=
  List.foldl_append

theorem admits_append_iff {views : List View} {events later : List Event} :
    Admits views (events ++ later) ↔ Admits views events ∧ Admits (replay views events) later := by
  induction events generalizing views with
  | nil => simp [Admits, replay]
  | cons e events ih =>
    simp only [List.cons_append, Admits, ih, replay, List.foldl_cons, and_assoc]

/-! ### One event -/

namespace View

variable {v : View}

theorem check_of_isValid (h : v.isValid = true) : v.check = .ok () := by
  rw [check, if_pos h]

theorem check_of_not_isValid (h : v.isValid = false) {t : ConcreteType} (ht : v.type = some t) :
    v.check = .error (.released v.kind t.tag) := by
  rw [check, if_neg (by simp [h]), tag, ht]

/-- Only a live view gives anything back. -/
theorem isValid_of_content_eq_ok {given : Value} (h : v.content = .ok given) : v.isValid = true := by
  cases hvalid : v.isValid with
  | true => rfl
  | false =>
    have hcheck : ∀ u, v.check ≠ .ok u := by
      intro u hu
      rw [check, if_neg (by simp [hvalid])] at hu
      split at hu <;> cases hu
    cases hchecked : v.check with
    | ok u => exact absurd hchecked (hcheck u)
    | error fault =>
      obtain ⟨type, borrowed, lifetime, transferred⟩ := v
      cases borrowed with
      | dense block => simp [content, array, hchecked, Except.map] at h
      | sparse parts rows columns =>
        simp [content, matrix, hchecked, Except.map, bind, Except.bind] at h

@[simp] theorem drop_type (v : View) : v.drop.type = v.type := by
  unfold drop
  split <;> rfl

@[simp] theorem expire_type (v : View) : v.expire.type = v.type := by
  unfold expire
  split <;> rfl

@[simp] theorem detach_type (v : View) : v.detach.type = v.type := by
  unfold detach
  split <;> rfl

@[simp] theorem drop_transferred (v : View) : v.drop.transferred = v.transferred := by
  unfold drop
  split <;> rfl

@[simp] theorem expire_transferred (v : View) : v.expire.transferred = v.transferred := by
  unfold expire
  split <;> rfl

@[simp] theorem detach_isValid (v : View) : v.detach.isValid = v.isValid := by
  unfold detach
  split <;> rfl

@[simp] theorem drop_isValid (v : View) : v.drop.isValid = false := by
  unfold drop
  split
  · rfl
  · next h => simpa using h

/-- The end of a call leaves a view as it is if the view was transferred, and releases it otherwise. -/
theorem expire_isValid (v : View) : v.expire.isValid = (v.isValid && v.transferred) := by
  unfold expire
  split
  · next h =>
    simp only [Bool.and_eq_true, Bool.not_eq_true'] at h
    simp [isValid, h.2]
  · next h =>
    cases hv : v.isValid <;> cases ht : v.transferred <;> simp_all

theorem detach_transferred (v : View) : v.transferred = true → v.detach.transferred = true := by
  intro h
  unfold detach
  split
  · rfl
  · exact h

theorem isValid_of_detach (h : v.detach.transferred = true) (hnot : v.transferred = false) :
    v.isValid = true := by
  unfold detach at h
  split at h
  · next hcontent => exact isValid_of_content_eq_ok hcontent
  · simp [hnot] at h

end View

namespace Event

variable {views : List View} {e : Event} {n : Nat} {v : View}

theorem getElem?_apply (h : views[n]? = some v) : (e.apply views)[n]? = some (e.change n v) := by
  have hmodify : ∀ (k : Nat) (f : View → View),
      (views.modify k f)[n]? = some (if k = n then f v else v) := by
    intro k f
    rw [List.getElem?_modify, h]
    split <;> rfl
  cases e with
  | made w =>
    have hn : n < views.length := (List.getElem?_eq_some_iff.1 h).1
    rw [apply, List.getElem?_append_left hn, h]
    rfl
  | dropped k => exact hmodify k View.drop
  | detached k => exact hmodify k View.detach
  | expired k => exact hmodify k View.expire
  | seen ws => exact h
  | ended first last => exact h

theorem length_le_apply (views : List View) (e : Event) : views.length ≤ (e.apply views).length := by
  cases e with
  | made w => simp [apply]
  | dropped k => simp [apply]
  | detached k => simp [apply]
  | expired k => simp [apply]
  | seen ws => exact Nat.le_refl _
  | ended first last => exact Nat.le_refl _

/-- Everything an event can do to one view: it leaves it as it is, or the event is about this view and
releases it, asks for what it borrows, or ends its call. -/
theorem change_cases (e : Event) (n : Nat) (v : View) :
    e.change n v = v ∨ e = .dropped n ∧ e.change n v = v.drop ∨
      e = .detached n ∧ e.change n v = v.detach ∨ e = .expired n ∧ e.change n v = v.expire := by
  cases e with
  | made w => exact .inl rfl
  | dropped k =>
    by_cases hk : k = n
    · exact .inr (.inl ⟨by rw [hk], if_pos hk⟩)
    · exact .inl (if_neg hk)
  | detached k =>
    by_cases hk : k = n
    · exact .inr (.inr (.inl ⟨by rw [hk], if_pos hk⟩))
    · exact .inl (if_neg hk)
  | expired k =>
    by_cases hk : k = n
    · exact .inr (.inr (.inr ⟨by rw [hk], if_pos hk⟩))
    · exact .inl (if_neg hk)
  | seen ws => exact .inl rfl
  | ended first last => exact .inl rfl

/-- Nothing brings a view back to life. -/
theorem isValid_of_change (h : (e.change n v).isValid = true) : v.isValid = true := by
  rcases change_cases e n v with heq | ⟨-, heq⟩ | ⟨-, heq⟩ | ⟨-, heq⟩ <;> rw [heq] at h
  · exact h
  · simp at h
  · simpa using h
  · rw [View.expire_isValid, Bool.and_eq_true] at h
    exact h.1

/-- Nothing takes a transfer back. -/
theorem transferred_change (h : v.transferred = true) : (e.change n v).transferred = true := by
  rcases change_cases e n v with heq | ⟨-, heq⟩ | ⟨-, heq⟩ | ⟨-, heq⟩ <;> rw [heq]
  · exact h
  · rw [View.drop_transferred, h]
  · exact v.detach_transferred h
  · rw [View.expire_transferred, h]

/-- Only a live view is transferred, and only by asking for what it borrows. -/
theorem transferred_of_change (h : (e.change n v).transferred = true) :
    v.transferred = true ∨ v.isValid = true ∧ e = .detached n := by
  rcases change_cases e n v with heq | ⟨-, heq⟩ | ⟨he, heq⟩ | ⟨-, heq⟩ <;> rw [heq] at h
  · exact .inl h
  · exact .inl (v.drop_transferred ▸ h)
  · cases hv : v.transferred with
    | true => exact .inl rfl
    | false => exact .inr ⟨View.isValid_of_detach h hv, he⟩
  · exact .inl (v.expire_transferred ▸ h)

theorem change_type (e : Event) (n : Nat) (v : View) : (e.change n v).type = v.type := by
  rcases change_cases e n v with heq | ⟨-, heq⟩ | ⟨-, heq⟩ | ⟨-, heq⟩ <;> simp [heq]

/-- A transferred view is released by its holder only. -/
theorem eq_dropped_of_change (hvalid : v.isValid = true)
    (h : (e.change n v).isValid = false) (htransferred : (e.change n v).transferred = true) :
    e = .dropped n := by
  rcases change_cases e n v with heq | ⟨he, -⟩ | ⟨-, heq⟩ | ⟨-, heq⟩
  · simp [heq, hvalid] at h
  · exact he
  · simp [heq, hvalid] at h
  · rw [heq, View.expire_transferred] at htransferred
    simp [heq, View.expire_isValid, hvalid, htransferred] at h

end Event

/-! ### A whole history -/

theorem length_le_replay (views : List View) (events : List Event) :
    views.length ≤ (replay views events).length := by
  induction events generalizing views with
  | nil => exact Nat.le_refl _
  | cons e events ih => exact Nat.le_trans (e.length_le_apply views) (ih (e.apply views))

/-- A view that is transferred, or not live, is one of the two ever after. -/
theorem transferred_replay {views : List View} {events : List Event} {n : Nat} {v w : View}
    (hv : views[n]? = some v) (hsettled : v.isValid = true → v.transferred = true)
    (hw : (replay views events)[n]? = some w) (hvalid : w.isValid = true) : w.transferred = true := by
  induction events generalizing views v with
  | nil =>
    obtain rfl := Option.some.inj (hv.symm.trans hw)
    exact hsettled hvalid
  | cons e events ih =>
    refine ih (Event.getElem?_apply hv) ?_ hw
    intro hlive
    exact Event.transferred_change (hsettled (Event.isValid_of_change hlive))

/-- What is true of some views after a past. -/
structure Consistent (past : List Event) (views : List View) : Prop where
  /-- Every view has a type. -/
  typed : ∀ (n : Nat) (v : View), views[n]? = some v → v.type.isSome
  /-- Only views that exist were released, -/
  known : ∀ n, Event.dropped n ∈ past → n < views.length
  /-- and these are not live. -/
  released : ∀ (n : Nat) (v : View), views[n]? = some v → .dropped n ∈ past → v.isValid = false
  /-- A transferred view is live unless its holder released it. -/
  kept : ∀ (n : Nat) (v : View), views[n]? = some v → v.transferred = true → .dropped n ∉ past → v.isValid = true
  /-- The calls that have ended had made views that exist, -/
  made : ∀ first last, Event.ended first last ∈ past → last ≤ views.length
  /-- and a live one of them is transferred. -/
  settled : ∀ first last, Event.ended first last ∈ past → ∀ (n : Nat) (v : View), first ≤ n → n < last →
    views[n]? = some v → v.isValid = true → v.transferred = true

/-- After an event there are the views of before, changed, and perhaps a new one. -/
theorem Event.of_getElem?_apply {views : List View} {e : Event} {n : Nat} {w : View}
    (h : (e.apply views)[n]? = some w) :
    (∃ v, views[n]? = some v ∧ w = e.change n v) ∨ e = .made w ∧ n = views.length := by
  cases hv : views[n]? with
  | some v =>
    rw [getElem?_apply hv] at h
    exact .inl ⟨v, rfl, (Option.some.inj h).symm⟩
  | none =>
    have hn : views.length ≤ n := List.getElem?_eq_none_iff.1 hv
    refine .inr ?_
    cases e with
    | made u =>
      rw [apply, List.getElem?_append_right hn] at h
      obtain ⟨hlt, hu⟩ := List.getElem?_eq_some_iff.1 h
      simp only [List.length_singleton] at hlt
      have hzero : n - views.length = 0 := by omega
      simp only [hzero, List.getElem_cons_zero] at hu
      exact ⟨by rw [hu], by omega⟩
    | dropped k => simp [apply, List.getElem?_modify, hv] at h
    | detached k => simp [apply, List.getElem?_modify, hv] at h
    | expired k => simp [apply, List.getElem?_modify, hv] at h
    | seen ws => simp [apply, hv] at h
    | ended first last => simp [apply, hv] at h

/-- An event that can happen keeps a past and its views consistent. -/
theorem Consistent.step {past : List Event} {views : List View} {e : Event}
    (h : Consistent past views) (he : e.Happens views) :
    Consistent (past ++ [e]) (e.apply views) where
  typed := by
    intro n w hw
    rcases Event.of_getElem?_apply hw with ⟨v, hv, rfl⟩ | ⟨rfl, -⟩
    · rw [Event.change_type]
      exact h.typed n v hv
    · exact he.2.2
  known := by
    intro n hn
    rcases List.mem_append.1 hn with hn | hn
    · exact Nat.lt_of_lt_of_le (h.known n hn) (e.length_le_apply views)
    · obtain rfl := List.mem_singleton.1 hn
      exact Nat.lt_of_lt_of_le he (Event.length_le_apply views _)
  released := by
    intro n w hw hn
    rcases Event.of_getElem?_apply hw with ⟨v, hv, rfl⟩ | ⟨rfl, rfl⟩
    · rcases List.mem_append.1 hn with hn | hn
      · cases hvalid : (e.change n v).isValid with
        | false => rfl
        | true =>
          have hbefore := Event.isValid_of_change hvalid
          rw [h.released n v hv hn] at hbefore
          cases hbefore
      · obtain rfl := List.mem_singleton.1 hn
        simp [Event.change]
    · rcases List.mem_append.1 hn with hn | hn
      · exact absurd (h.known _ hn) (Nat.lt_irrefl _)
      · cases List.mem_singleton.1 hn
  kept := by
    intro n w hw htransferred hn
    have hold : .dropped n ∉ past := fun hmem => hn (List.mem_append_left _ hmem)
    rcases Event.of_getElem?_apply hw with ⟨v, hv, rfl⟩ | ⟨rfl, rfl⟩
    · have hvalid : v.isValid = true := by
        rcases Event.transferred_of_change htransferred with hbefore | ⟨hvalid, -⟩
        · exact h.kept n v hv hbefore hold
        · exact hvalid
      cases hlive : (e.change n v).isValid with
      | true => rfl
      | false =>
        have heq := Event.eq_dropped_of_change hvalid hlive htransferred
        exact absurd (List.mem_append_right past (List.mem_singleton.2 heq.symm)) hn
    · exact he.1
  made := by
    intro first last hmem
    rcases List.mem_append.1 hmem with hmem | hmem
    · exact Nat.le_trans (h.made first last hmem) (e.length_le_apply views)
    · obtain rfl := List.mem_singleton.1 hmem
      exact he.1
  settled := by
    intro first last hmem n w hfirst hlast hw hvalid
    rcases Event.of_getElem?_apply hw with ⟨v, hv, rfl⟩ | ⟨rfl, rfl⟩
    · rcases List.mem_append.1 hmem with hmem | hmem
      · exact Event.transferred_change
          (h.settled first last hmem n v hfirst hlast hv (Event.isValid_of_change hvalid))
      · obtain rfl := List.mem_singleton.1 hmem
        exact he.2 n v hfirst hlast hv hvalid
    · rcases List.mem_append.1 hmem with hmem | hmem
      · have hmade := h.made first last hmem
        omega
      · cases List.mem_singleton.1 hmem

theorem Consistent.run {past events : List Event} {views : List View} (h : Consistent past views)
    (hadmits : Admits views events) : Consistent (past ++ events) (replay views events) := by
  induction events generalizing past views with
  | nil => simpa [replay] using h
  | cons e events ih =>
    obtain ⟨he, hrest⟩ := hadmits
    rw [List.append_cons]
    exact ih (h.step he) hrest

theorem consistent_nil : Consistent [] [] where
  typed := by simp
  known := by simp
  released := by simp
  kept := by simp
  made := by simp
  settled := by simp

end Monomorph
