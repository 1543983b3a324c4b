import Monomorph.Dispatcher
import Monomorph.Proofs.View.History

/-!
The history that a program writes. It is read off the program the way the program is run, and goes into
the calls of other functions. Replaying it gives the views that the run leaves, and every event in it
can happen where it stands. Both are shown for a program from its calls, and for nested calls by
induction on the depth.
-/

namespace Monomorph

/-- How the history of a call is known from within a program. -/
abbrev Recorder := Nat → List Value → List (String × Value) → Memory → List Event

/-- The history of a program. To release what is no view is no event. -/
def Program.record (caller : Caller) (recorder : Recorder) : Program → Memory → List Event
  | done _, _ => []
  | look next, m => .seen m.views :: (next m).record caller recorder m
  | keep v next, m => next.record caller recorder { m with kept := m.kept ++ [v] }
  | write b i n next, m =>
    match m.writeAt b i n with
    | .ok m' => (next (.ok ())).record caller recorder m'
    | .error f => (next (.error f)).record caller recorder m
  | drop v next, m =>
    (if v < m.views.length then [.dropped v] else []) ++ next.record caller recorder (m.drop v)
  | detach v next, m =>
    .detached v ::
      match m.detach v with
      | .ok (content, m') => (next (.ok content)).record caller recorder m'
      | .error f => (next (.error (.view f))).record caller recorder m
  | call f args keywords next, m =>
    let (result, m') := caller f args keywords m
    recorder f args keywords m ++ (next result).record caller recorder m'

namespace Dispatcher

/-- What a call comes to before anything runs: the implementation, what it is given, and the memory with
the new views. -/
def opened? (d : Dispatcher) (arguments : List Value) (keywords : List (String × Value)) (m : Memory) :
    Option (Implementation × List Value × Memory) :=
  match d.bind arguments keywords with
  | .error _ => none
  | .ok values =>
    match d.resolve values with
    | .error _ => none
    | .ok c =>
      if !c.identifier.isKey then none
      else match Label.lookup? c.identifier d.implementations with
      | none => none
      | some implementation =>
        match m.viewAll (values.zip c.types) with
        | .error _ => none
        | .ok (given, m') => some (implementation, given, m')

/-- What is asked for when an implementation hands its result over. -/
def handedOver : Except Failure Answer → List Event
  | .ok (.moved (.view _ number)) => [.detached number]
  | _ => []

/-- The arguments that expire with a call. -/
def expiring : List Value → List Event
  | [] => []
  | .view _ number :: rest => .expired number :: expiring rest
  | _ :: rest => expiring rest

/-- The history of a call. -/
def recordWith (caller : Caller) (recorder : Recorder) (d : Dispatcher) (arguments : List Value)
    (keywords : List (String × Value)) (m : Memory) : List Event :=
  match d.opened? arguments keywords m with
  | none => []
  | some (implementation, given, m') =>
    (m'.views.drop m.views.length).map .made ++
      ((implementation given).record caller recorder m' ++
        (handedOver ((implementation given).run caller m').1 ++ expiring given)) ++
      [.ended m.views.length m'.views.length]

/-- The histories of calls among some functions, nested up to some depth. -/
def recordAt (ds : List Dispatcher) : Nat → Recorder
  | 0 => fun _ _ _ _ => []
  | depth + 1 => fun function arguments keywords m =>
    match ds[function]? with
    | none => []
    | some d => d.recordWith (callAt ds depth) (recordAt ds depth) arguments keywords m

end Dispatcher

/-! ### Histories of steps -/

/-- A history that leads from some views to others, where every event can happen. It ends every call
that it begins: a view that it makes is one of a call that has ended in it. -/
structure Leads (views : List View) (events : List Event) (later : List View) : Prop where
  admits : Admits views events
  replay_eq : replay views events = later
  closed : ∀ n, views.length ≤ n → n < later.length →
    ∃ first last, Event.ended first last ∈ events ∧ first ≤ n ∧ n < last

namespace Leads

variable {views later latest : List View} {events events' : List Event}

theorem nil (views : List View) : Leads views [] views where
  admits := trivial
  replay_eq := rfl
  closed := by
    intro n hn hn'
    omega

theorem append (h : Leads views events later) (h' : Leads later events' latest) :
    Leads views (events ++ events') latest where
  admits := by
    rw [admits_append_iff, h.replay_eq]
    exact ⟨h.admits, h'.admits⟩
  replay_eq := by rw [replay_append, h.replay_eq, h'.replay_eq]
  closed := by
    intro n hn hn'
    rcases Nat.lt_or_ge n later.length with hold | hnew
    · obtain ⟨first, last, hmem, hfirst, hlast⟩ := h.closed n hn hold
      exact ⟨first, last, List.mem_append_left _ hmem, hfirst, hlast⟩
    · obtain ⟨first, last, hmem, hfirst, hlast⟩ := h'.closed n hnew hn'
      exact ⟨first, last, List.mem_append_right _ hmem, hfirst, hlast⟩

theorem length_le (h : Leads views events later) : views.length ≤ later.length :=
  h.replay_eq ▸ length_le_replay views events

/-- A single event that makes no view. -/
theorem single {e : Event} (he : e.Happens views) (hlen : (e.apply views).length = views.length) :
    Leads views [e] (e.apply views) where
  admits := ⟨he, trivial⟩
  replay_eq := rfl
  closed := by
    intro n hn hn'
    omega

end Leads

namespace Memory

variable {m m' : Memory} {number : Nat} {given : Value}

theorem modify_congr {views : List View} {f g : View → View}
    (h : ∀ v, views[number]? = some v → f v = g v) :
    views.modify number f = views.modify number g := by
  apply List.ext_getElem?
  intro i
  rw [List.getElem?_modify, List.getElem?_modify]
  split
  · next heq =>
    subst heq
    cases hv : views[number]? with
    | none => rfl
    | some v => exact congrArg some (h v hv)
  · rfl

theorem modify_eq_self {views : List View} {f : View → View}
    (h : ∀ v, views[number]? = some v → f v = v) : views.modify number f = views :=
  (modify_congr h).trans (List.modify_id number views)

theorem views_of_detach_ok (h : m.detach number = .ok (given, m')) :
    m'.views = m.views.modify number View.detach := by
  unfold detach at h
  cases hview : m.view? number with
  | none => simp [hview] at h
  | some v =>
    rw [hview] at h
    cases hcontent : v.content with
    | error fault => simp [hcontent, Except.map] at h
    | ok content =>
      simp only [hcontent, Except.map, Except.ok.injEq, Prod.mk.injEq] at h
      obtain ⟨-, rfl⟩ := h
      refine modify_congr fun w hw => ?_
      obtain rfl : v = w := Option.some.inj (hview.symm.trans hw)
      rw [View.detach, hcontent]

theorem views_of_detach_error {fault : ViewFault} (h : m.detach number = .error fault) :
    m.views.modify number View.detach = m.views := by
  refine modify_eq_self fun v hv => ?_
  have hview : m.view? number = some v := hv
  unfold detach at h
  rw [hview] at h
  cases hcontent : v.content with
  | ok content => simp [hcontent, Except.map] at h
  | error fault => rw [View.detach, hcontent]

/-- Asking for what a view borrows is one event, whether it is given, -/
theorem leads_of_detach_ok (h : m.detach number = .ok (given, m')) :
    Leads m.views [.detached number] m'.views := by
  rw [views_of_detach_ok h]
  exact .single trivial (by simp [Event.apply])

/-- or refused. -/
theorem leads_of_detach_error {fault : ViewFault} (h : m.detach number = .error fault) :
    Leads m.views [.detached number] m.views := by
  have hasked : Leads m.views [.detached number] (m.views.modify number View.detach) :=
    .single trivial (by simp [Event.apply])
  rwa [views_of_detach_error h] at hasked

theorem views_of_drop_unknown (h : m.views.length ≤ number) : (m.drop number).views = m.views := by
  refine modify_eq_self fun v hv => ?_
  rw [List.getElem?_eq_none_iff.2 h] at hv
  cases hv

/-- A view is new to the memory, or what is given is the value itself. -/
theorem viewAs_cases {v : Value} {t : ConcreteType} (h : m.viewAs v t = .ok (given, m')) :
    given = v ∧ m' = m ∨ ∃ view : View, view.isValid = true ∧ view.transferred = false ∧
      view.type.isSome ∧ given = .view view.kind m.views.length ∧
      m' = { m with views := m.views ++ [view] } := by
  cases t with
  | host text =>
    simp only [viewAs, Except.ok.injEq, Prod.mk.injEq] at h
    exact .inl ⟨h.1.symm, h.2.symm⟩
  | dense e =>
    cases v with
    | array b =>
      simp only [viewAs, viewDense, addView, Except.ok.injEq, Prod.mk.injEq] at h
      exact .inr ⟨_, rfl, rfl, rfl, h.1.symm, h.2.symm⟩
    | literal l => cases h
    | sparse s => cases h
    | view kind n => cases h
  | sparse e layout =>
    cases v with
    | array b => cases h
    | literal l => cases h
    | sparse s =>
      simp only [viewAs, viewSparse] at h
      split at h
      · simp only [addView, Except.ok.injEq, Prod.mk.injEq] at h
        exact .inr ⟨_, rfl, rfl, rfl, h.1.symm, h.2.symm⟩
      · cases h
    | view kind n => cases h

/-- A call's views are new to the memory, and the implementation is given all of them. -/
theorem exists_of_viewAll {pairs : List (Value × ConcreteType)} {given : List Value}
    (h : m.viewAll pairs = .ok (given, m')) :
    ∃ made : List View, m' = { m with views := m.views ++ made } ∧
      (∀ v ∈ made, v.isValid = true ∧ v.transferred = false ∧ v.type.isSome) ∧
      ∀ n, m.views.length ≤ n → n < m'.views.length → ∃ kind, .view kind n ∈ given := by
  induction pairs generalizing m m' given with
  | nil =>
    simp only [viewAll, Except.ok.injEq, Prod.mk.injEq] at h
    obtain ⟨-, rfl⟩ := h
    refine ⟨[], by simp, by simp, ?_⟩
    intro n hn hn'
    omega
  | cons a pairs ih =>
    obtain ⟨v, t⟩ := a
    simp only [viewAll, bind, Except.bind] at h
    cases hfirst : m.viewAs v t with
    | error fault => simp [hfirst] at h
    | ok first =>
      obtain ⟨first, m₁⟩ := first
      rw [hfirst] at h
      cases hothers : m₁.viewAll pairs with
      | error fault => simp [hothers] at h
      | ok others =>
        obtain ⟨others, m₂⟩ := others
        simp only [hothers, pure, Except.pure, Except.ok.injEq, Prod.mk.injEq] at h
        obtain ⟨rfl, rfl⟩ := h
        obtain ⟨made, rfl, hnew, hgiven⟩ := ih hothers
        rcases viewAs_cases hfirst with ⟨-, rfl⟩ | ⟨view, hvalid, htransferred, htype, rfl, rfl⟩
        · refine ⟨made, rfl, hnew, ?_⟩
          intro n hn hn'
          obtain ⟨kind, hmem⟩ := hgiven n hn hn'
          exact ⟨kind, List.mem_cons_of_mem _ hmem⟩
        · refine ⟨view :: made, by simp, ?_, ?_⟩
          · intro w hw
            rcases List.mem_cons.1 hw with rfl | hw
            · exact ⟨hvalid, htransferred, htype⟩
            · exact hnew w hw
          · intro n hn hn'
            rcases Nat.eq_or_lt_of_le hn with rfl | hlt
            · exact ⟨view.kind, List.mem_cons_self⟩
            · obtain ⟨kind, hmem⟩ := hgiven n (by simpa [Nat.succ_le_iff] using hlt) hn'
              exact ⟨kind, List.mem_cons_of_mem _ hmem⟩

end Memory

/-! ### Histories of programs -/

/-- The recorder of a caller tells what its calls do. -/
def Tells (recorder : Recorder) (caller : Caller) : Prop :=
  ∀ f args keywords m, Leads m.views (recorder f args keywords m) (caller f args keywords m).2.views

/-- The history of a program leads from the views before its run to those after it. -/
theorem Program.leads {caller : Caller} {recorder : Recorder} (htells : Tells recorder caller)
    (p : Program) (m : Memory) :
    Leads m.views (p.record caller recorder m) (p.run caller m).2.views := by
  induction p generalizing m with
  | done outcome => exact .nil m.views
  | look next ih =>
    have hseen : Leads m.views [.seen m.views] m.views := .single rfl rfl
    exact hseen.append (ih m m)
  | keep v next ih => exact ih { m with kept := m.kept ++ [v] }
  | write b i n next ih =>
    have hviews : ∀ m', m.writeAt b i n = .ok m' → m'.views = m.views := by
      intro m' h
      unfold Memory.writeAt at h
      split at h <;> cases h
      rfl
    rw [record, run]
    cases hwrite : m.writeAt b i n with
    | ok m' => exact hviews m' hwrite ▸ ih (.ok ()) m'
    | error f => exact ih (.error f) m
  | drop v next ih =>
    rw [record, run]
    refine Leads.append ?_ (ih (m.drop v))
    split
    · next hlt => exact Leads.single hlt (by simp [Event.apply])
    · next hge =>
      rw [Memory.views_of_drop_unknown (Nat.le_of_not_lt hge)]
      exact .nil m.views
  | detach v next ih =>
    rw [record, run]
    cases hdetach : m.detach v with
    | ok result =>
      obtain ⟨content, m'⟩ := result
      exact (Memory.leads_of_detach_ok hdetach).append (ih (.ok content) m')
    | error f => exact (Memory.leads_of_detach_error hdetach).append (ih (.error (.view f)) m)
  | call f args keywords next ih =>
    exact (htells f args keywords m).append (ih _ _)

/-! ### Histories of calls -/

namespace Dispatcher

/-- Either a call comes to nothing, or it runs an implementation on what it is given. -/
theorem callWith_cases (caller : Caller) (d : Dispatcher) (arguments : List Value)
    (keywords : List (String × Value)) (m : Memory) :
    (d.opened? arguments keywords m = none ∧ (d.callWith caller arguments keywords m).2 = m) ∨
    ∃ pairs implementation given m', m.viewAll pairs = .ok (given, m') ∧
      d.opened? arguments keywords m = some (implementation, given, m') ∧
      d.callWith caller arguments keywords m =
        finish given ((implementation given).run caller m').1 ((implementation given).run caller m').2 := by
  unfold opened? callWith
  cases d.bind arguments keywords with
  | error fault => exact .inl ⟨rfl, rfl⟩
  | ok values =>
    dsimp only
    cases d.resolve values with
    | error f => exact .inl ⟨rfl, rfl⟩
    | ok c =>
      dsimp only
      split
      · exact .inl ⟨rfl, rfl⟩
      · cases Label.lookup? c.identifier d.implementations with
        | none => exact .inl ⟨rfl, rfl⟩
        | some implementation =>
          dsimp only
          cases hviews : m.viewAll (values.zip c.types) with
          | error fault => exact .inl ⟨rfl, rfl⟩
          | ok result => exact .inr ⟨_, implementation, result.1, result.2, hviews, rfl, rfl⟩

theorem replay_made (views made : List View) : replay views (made.map .made) = views ++ made := by
  induction made generalizing views with
  | nil => simp [replay]
  | cons v made ih =>
    have hrest := ih (views ++ [v])
    simpa [replay, Event.apply] using hrest

theorem admits_made {made : List View}
    (h : ∀ v ∈ made, v.isValid = true ∧ v.transferred = false ∧ v.type.isSome) (views : List View) :
    Admits views (made.map .made) := by
  induction made generalizing views with
  | nil => trivial
  | cons v made ih =>
    obtain ⟨hv, hmade⟩ := List.forall_mem_cons.1 h
    exact ⟨hv, ih hmade _⟩

theorem leads_handedOver (m : Memory) (answer : Answer) :
    Leads m.views (handedOver (.ok answer)) (unwrap m answer).2.views := by
  cases answer with
  | value v => exact .nil m.views
  | moved v =>
    cases v with
    | view kind number =>
      simp only [handedOver, unwrap]
      cases hdetach : m.detach number with
      | ok result => exact Memory.leads_of_detach_ok hdetach
      | error fault => exact Memory.leads_of_detach_error hdetach
    | literal l => exact .nil m.views
    | array b => exact .nil m.views
    | sparse s => exact .nil m.views

theorem leads_expiring (given : List Value) (m : Memory) :
    Leads m.views (expiring given) (given.foldl Memory.expire m).views := by
  induction given generalizing m with
  | nil => exact .nil m.views
  | cons v given ih =>
    cases v with
    | view kind number =>
      have hexpired : Leads m.views [.expired number] (m.views.modify number View.expire) :=
        .single trivial (by simp [Event.apply])
      exact hexpired.append (ih (m.expire (.view kind number)))
    | literal l => exact ih m
    | array b => exact ih m
    | sparse s => exact ih m

theorem leads_finish (given : List Value) (outcome : Except Failure Answer) (m : Memory) :
    Leads m.views (handedOver outcome ++ expiring given) (finish given outcome m).2.views := by
  cases outcome with
  | error f => exact leads_expiring given m
  | ok answer => exact (leads_handedOver m answer).append (leads_expiring given (unwrap m answer).2)

theorem transferred_of_expiring {given : List Value} {kind : ViewKind} {number : Nat}
    (hmem : .view kind number ∈ given) {views : List View} (hnumber : number < views.length) {v : View}
    (hv : (replay views (expiring given))[number]? = some v) (hvalid : v.isValid = true) :
    v.transferred = true := by
  induction given generalizing views with
  | nil => cases hmem
  | cons first rest ih =>
    rcases List.mem_cons.1 hmem with rfl | hrest
    · have hhead : (Event.apply views (.expired number))[number]? =
          some (Event.change (.expired number) number views[number]) :=
        Event.getElem?_apply (List.getElem?_eq_getElem hnumber)
      rw [Event.change, if_pos rfl] at hhead
      -- later events leave alone that the view is released or transferred
      refine transferred_replay hhead (fun hlive => ?_) hv hvalid
      rw [View.expire_isValid, Bool.and_eq_true] at hlive
      rw [View.expire_transferred]
      exact hlive.2
    · cases first with
      | view kind' number' =>
        have hlen := Event.length_le_apply views (.expired number')
        exact ih hrest (Nat.lt_of_lt_of_le hnumber hlen) hv
      | literal l => exact ih hrest hnumber hv
      | array b => exact ih hrest hnumber hv
      | sparse s => exact ih hrest hnumber hv

/-- A view that was given to a call is released at the end of the call, unless it was transferred. -/
theorem transferred_of_finish {given : List Value} {kind : ViewKind} {number : Nat}
    (hmem : .view kind number ∈ given) {outcome : Except Failure Answer} {m : Memory}
    (hnumber : number < m.views.length) {v : View}
    (hv : (finish given outcome m).2.views[number]? = some v) (hvalid : v.isValid = true) :
    v.transferred = true := by
  rw [← (leads_finish given outcome m).replay_eq, replay_append] at hv
  exact transferred_of_expiring hmem (Nat.lt_of_lt_of_le hnumber (length_le_replay _ _)) hv hvalid

/-- The history of a call. It ends with the call, when the views of the call are released. -/
theorem leads_recordWith {caller : Caller} {recorder : Recorder} (htells : Tells recorder caller)
    (d : Dispatcher) (arguments : List Value) (keywords : List (String × Value)) (m : Memory) :
    Leads m.views (d.recordWith caller recorder arguments keywords m)
      (d.callWith caller arguments keywords m).2.views := by
  rcases callWith_cases caller d arguments keywords m with
    ⟨hopened, hsame⟩ | ⟨pairs, implementation, given, m', hviews, hopened, hcall⟩
  · rw [recordWith, hopened, hsame]
    exact .nil m.views
  · obtain ⟨made, hmade, hnew, hgiven⟩ := Memory.exists_of_viewAll hviews
    have hm' : m'.views = m.views ++ made := by rw [hmade]
    have hrun := (implementation given).leads htells m'
    have hinner := hrun.append (leads_finish given ((implementation given).run caller m').1
      ((implementation given).run caller m').2)
    rw [← hcall] at hinner
    have hended : Event.Happens (d.callWith caller arguments keywords m).2.views
        (.ended m.views.length m'.views.length) := by
      refine ⟨hinner.length_le, ?_⟩
      intro n v hfirst hlast hv hvalid
      obtain ⟨kind, hmem⟩ := hgiven n hfirst hlast
      rw [hcall] at hv
      exact transferred_of_finish hmem (Nat.lt_of_lt_of_le hlast hrun.length_le) hv hvalid
    have hstart : replay m.views (made.map .made) = m'.views := by rw [replay_made, hm']
    have hdrop : m'.views.drop m.views.length = made := by rw [hm', List.drop_left]
    rw [recordWith, hopened]
    dsimp only
    rw [hdrop]
    exact {
      admits := by
        rw [admits_append_iff, admits_append_iff, replay_append, hstart, hinner.replay_eq]
        exact ⟨⟨admits_made hnew m.views, hinner.admits⟩, hended, trivial⟩
      replay_eq := by
        rw [replay_append, replay_append, hstart, hinner.replay_eq]
        rfl
      closed := by
        intro n hn hn'
        rcases Nat.lt_or_ge n m'.views.length with hown | hlater
        · exact ⟨_, _, List.mem_append_right _ List.mem_cons_self, hn, hown⟩
        · obtain ⟨first, last, hmem, hfirst, hlast⟩ := hinner.closed n hlater hn'
          exact ⟨first, last, List.mem_append_left _ (List.mem_append_right _ hmem), hfirst, hlast⟩ }

/-- The histories of nested calls, whatever the depth. -/
theorem tells_recordAt (ds : List Dispatcher) (depth : Nat) :
    Tells (recordAt ds depth) (callAt ds depth) := by
  induction depth with
  | zero =>
    intro f arguments keywords m
    exact .nil m.views
  | succ depth ih =>
    intro f arguments keywords m
    rw [recordAt, callAt]
    dsimp only
    cases ds[f]? with
    | none => exact .nil m.views
    | some d => exact leads_recordWith ih d arguments keywords m

end Dispatcher

end Monomorph
