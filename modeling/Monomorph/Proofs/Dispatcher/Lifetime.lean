import Monomorph.Program.Member
import Monomorph.Proofs.Dispatcher.Record

/-!
How long views live. Over a whole session of calls, nested ones included, the views that a call makes
are released when it ends, except for those that were transferred; those live until their holder
releases them. A view that is released answers nothing that needs its buffers, and stays as it is.
-/

namespace Monomorph

/-! ### Use of a view -/

/-- Are the buffers of a view of some kind needed for a member? -/
def Member.reaches : ViewKind → Member → Bool
  | .dense, array | .dense, shape | .dense, format | .dense, arrayAs _ => true
  | .sparse, values | .sparse, indices | .sparse, starts => true
  | .sparse, shape | .sparse, storedCount | .sparse, matrix => true
  | _, _ => false

namespace View

variable {α β : Type} {v : View} {m : Memory} {member : Member} {number : Nat}

/-- A result that is got by checking a view first. What comes after the check is never that a view was
released. -/
def Checked (v : View) (r : Except ViewFault α) : Prop :=
  ∃ found : Except ViewFault α, (∀ kind tag, found ≠ .error (.released kind tag)) ∧
    r = v.check.bind fun _ => found

theorem Checked.bind {r : Except ViewFault α} (h : v.Checked r) {f : α → Except ViewFault β}
    (hf : ∀ x kind tag, f x ≠ .error (.released kind tag)) : v.Checked (r.bind f) := by
  obtain ⟨found, hfound, rfl⟩ := h
  refine ⟨found.bind f, ?_, ?_⟩
  · intro kind tag heq
    cases found with
    | ok x => exact hf x kind tag heq
    | error fault => exact hfound kind tag (congrArg Except.error (Except.error.inj heq))
  · cases v.check <;> rfl

theorem Checked.map {r : Except ViewFault α} (h : v.Checked r) (f : α → β) : v.Checked (r.map f) := by
  have hbind : v.Checked (r.bind fun x => .ok (f x)) := h.bind (by simp)
  cases r <;> exact hbind

theorem checked_check_map (x : α) : v.Checked (v.check.map fun _ => x) := by
  refine ⟨.ok x, by simp, ?_⟩
  cases v.check <;> rfl

/-- A member that needs the buffers of a view is got by checking the view first. -/
theorem checked_valueIn (m : Memory) (hmember : member.reaches v.kind = true) :
    v.Checked (member.valueIn m v) := by
  obtain ⟨type, borrowed, lifetime, transferred⟩ := v
  cases borrowed with
  | dense block =>
    have harray : Checked ⟨type, .dense block, lifetime, transferred⟩
        (View.array ⟨type, .dense block, lifetime, transferred⟩) := checked_check_map block
    cases member with
    | array => exact harray.map _
    | shape => exact (checked_check_map _).map _
    | format => exact (harray.map _).map _
    | arrayAs wanted =>
      refine (harray.bind fun block kind tag => ?_).map _
      cases wanted with
      | none => simp [pure, Except.pure]
      | some f =>
        dsimp only
        split <;> simp [pure, Except.pure, throw, throwThe, MonadExceptOf.throw]
    | _ => exact (Bool.false_ne_true hmember).elim
  | sparse parts rows columns =>
    have hparts : Checked ⟨type, .sparse parts rows columns, lifetime, transferred⟩
        (View.parts ⟨type, .sparse parts rows columns, lifetime, transferred⟩) :=
      checked_check_map parts
    cases member with
    | values => exact hparts.map _
    | indices => exact hparts.map _
    | starts => exact hparts.map _
    | shape => exact (checked_check_map _).map _
    | storedCount => exact (hparts.map _).map _
    | matrix =>
      refine Checked.map ⟨_, ?_, rfl⟩ _
      intro kind tag
      cases hlayout : View.layout ⟨type, .sparse parts rows columns, lifetime, transferred⟩ with
      | error fault =>
        unfold layout at hlayout
        split at hlayout <;> cases hlayout <;> simp [bind, Except.bind]
      | ok layout =>
        simp only [bind, Except.bind]
        split <;> split <;> simp [pure, Except.pure, throw, throwThe, MonadExceptOf.throw]
    | _ => exact (Bool.false_ne_true hmember).elim

theorem Checked.eq_error_iff {r : Except ViewFault α} (h : v.Checked r) (htype : v.type.isSome) :
    (∃ kind tag, r = .error (.released kind tag)) ↔ v.isValid = false := by
  obtain ⟨found, hfound, rfl⟩ := h
  obtain ⟨t, ht⟩ := Option.isSome_iff_exists.1 htype
  cases hvalid : v.isValid with
  | true =>
    rw [check_of_isValid hvalid]
    refine iff_of_false ?_ (by simp)
    rintro ⟨kind, tag, heq⟩
    exact hfound kind tag heq
  | false =>
    rw [check_of_not_isValid hvalid ht]
    exact iff_of_true ⟨v.kind, t.tag, rfl⟩ rfl

theorem checked_content (v : View) : v.Checked v.content := by
  obtain ⟨type, borrowed, lifetime, transferred⟩ := v
  cases borrowed with
  | dense block => exact checked_valueIn ({} : Memory) (rfl : Member.reaches _ .array = true)
  | sparse parts rows columns => exact checked_valueIn ({} : Memory) (rfl : Member.reaches _ .matrix = true)

end View

namespace Program

variable {v : View} {m : Memory} {member : Member} {number : Nat}

theorem run_useMember (caller : Caller) (hview : m.view? number = some v)
    (hmember : member.reaches v.kind = true) (kind : ViewKind) :
    (useMember member (.view kind number)).run caller m =
      (((member.valueIn m v).mapError .view).map .value, m) := by
  unfold useMember
  split
  · cases hkind : v.kind <;> simp [Member.reaches, hkind] at hmember
  · cases hkind : v.kind <;> simp [Member.reaches, hkind] at hmember
  · simp only [onView, run, hview, ofResult]

theorem run_detach (caller : Caller) (hview : m.view? number = some v) (kind : ViewKind) :
    (useMember .detach (.view kind number)).run caller m =
      match v.content with
      | .ok given => (.ok (.value given), m.changeView number fun v => { v with transferred := true })
      | .error fault => (.error (.view fault), m) := by
  have hdetach : m.detach number = v.content.map fun c =>
      (c, m.changeView number fun v => { v with transferred := true }) := by
    rw [Memory.detach, hview]
  simp only [useMember, run, hdetach]
  cases v.content <;> rfl

/-- To use the buffers of a view, or to take them over, fails with the report of a released view exactly
if the view is released, and leaves everything as it is. -/
theorem useMember_released_iff (caller : Caller) (hview : m.view? number = some v)
    (htype : v.type.isSome) (hmember : member.reaches v.kind = true ∨ member = .detach)
    (kind : ViewKind) :
    ((∃ k tag, ((useMember member (.view kind number)).run caller m).1 =
        .error (.view (.released k tag))) ↔ v.isValid = false) ∧
      (v.isValid = false → ((useMember member (.view kind number)).run caller m).2 = m) := by
  rcases hmember with hmember | rfl
  · rw [run_useMember caller hview hmember kind]
    refine ⟨?_, fun _ => rfl⟩
    rw [← (View.checked_valueIn m hmember).eq_error_iff htype]
    cases member.valueIn m v with
    | error fault =>
      change (∃ k tag, Except.error (Failure.view fault) = Except.error (Failure.view (.released k tag))) ↔ _
      simp
    | ok value =>
      change (∃ k tag, Except.ok (Answer.value value) = Except.error (Failure.view (.released k tag))) ↔ _
      simp
  · have hcontent := (View.checked_content v).eq_error_iff htype
    rw [run_detach caller hview kind, ← hcontent]
    cases v.content with
    | ok given => simp
    | error fault => simp

end Program

/-! ### Sessions -/

namespace Dispatcher

/-- The history of a session: of a program that calls some functions, in a memory without views. -/
def history (ds : List Dispatcher) (depth : Nat) (p : Program) (m : Memory) : List Event :=
  p.record (callAt ds depth) (recordAt ds depth) { m with views := [] }

/-- How long the views of a session live, whatever is called, however calls are nested and however they
end. The history of the session gives the views at any time: it starts with none, ends with those that
the session leaves, and gives those that a program sees. At any time, a view of a call that has ended is
live exactly if it was transferred and nobody has released it. What happens next brings no released view
back, takes no transfer back, and transfers a view only if it is live and asked for what it borrows. And
to use or to take over a view fails as a use of a released view exactly if it is released. -/
theorem view_lifetimes (ds : List Dispatcher) (depth : Nat) (p : Program) (m : Memory) :
    replay [] (history ds depth p m) = (p.run (callAt ds depth) { m with views := [] }).2.views ∧
    (∀ n, n < (p.run (callAt ds depth) { m with views := [] }).2.views.length →
      ∃ first last, Event.ended first last ∈ history ds depth p m ∧ first ≤ n ∧ n < last) ∧
    ∀ past rest, history ds depth p m = past ++ rest →
      (∀ views rest', rest = .seen views :: rest' → views = replay [] past) ∧
      (∀ first last, Event.ended first last ∈ past → ∀ n, first ≤ n → n < last →
        ∃ v, (replay [] past)[n]? = some v ∧
          (v.isValid = true ↔ v.transferred = true ∧ Event.dropped n ∉ past)) ∧
      (∀ e rest', rest = e :: rest' → ∀ (n : Nat) v, (replay [] past)[n]? = some v →
        ∃ w, (replay [] (past ++ [e]))[n]? = some w ∧ (v.isValid = false → w.isValid = false) ∧
          (v.transferred = true → w.transferred = true) ∧
          (w.transferred = true → v.transferred = true ∨ v.isValid = true ∧ e = .detached n)) ∧
      ∀ now : Memory, now.views = replay [] past → ∀ n v, now.view? n = some v → ∀ member,
        member.reaches v.kind = true ∨ member = .detach → ∀ caller kind,
        ((∃ k tag, ((Program.useMember member (.view kind n)).run caller now).1 =
            .error (.view (.released k tag))) ↔ v.isValid = false) ∧
          (v.isValid = false → ((Program.useMember member (.view kind n)).run caller now).2 = now) := by
  have hleads := p.leads (tells_recordAt ds depth) { m with views := [] }
  refine ⟨hleads.replay_eq, fun n hn => hleads.closed n (Nat.zero_le n) hn, ?_⟩
  intro past rest hsplit
  have hadmits : Admits [] (history ds depth p m) := hleads.admits
  rw [hsplit, admits_append_iff] at hadmits
  obtain ⟨hpast, hrest⟩ := hadmits
  have hconsistent : Consistent past (replay [] past) := consistent_nil.run hpast
  refine ⟨?_, ?_, ?_, ?_⟩
  · rintro views rest' rfl
    exact hrest.1
  · intro first last hended n hfirst hlast
    have hn : n < (replay [] past).length := Nat.lt_of_lt_of_le hlast (hconsistent.made _ _ hended)
    obtain ⟨v, hv⟩ : ∃ v, (replay [] past)[n]? = some v := ⟨_, List.getElem?_eq_getElem hn⟩
    refine ⟨v, hv, ?_, ?_⟩
    · intro hvalid
      refine ⟨hconsistent.settled first last hended n v hfirst hlast hv hvalid, fun hdropped => ?_⟩
      rw [hconsistent.released n v hv hdropped] at hvalid
      cases hvalid
    · rintro ⟨htransferred, hdropped⟩
      exact hconsistent.kept n v hv htransferred hdropped
  · rintro e rest' - n v hv
    refine ⟨e.change n v, ?_, ?_, Event.transferred_change, Event.transferred_of_change⟩
    · rw [replay_append]
      exact Event.getElem?_apply hv
    · intro hreleased
      cases hlive : (e.change n v).isValid with
      | false => rfl
      | true => exact absurd (Event.isValid_of_change hlive) (by simp [hreleased])
  · intro now hnow n v hv member hmember caller kind
    refine Program.useMember_released_iff caller hv ?_ hmember kind
    exact hconsistent.typed n v (hnow ▸ hv)

-- after a call that takes over the first of its two arrays, only the first view is live
example :
    let block : Block := ⟨.scalar ⟨.floating 64, false⟩, [2], 0, false⟩
    let types : List ConcreteType := [.dense .float64, .dense .float64]
    let d : Dispatcher := {
      table := {
        function := "f"
        names := ["a", "b"]
        combinations := [⟨0, ["a", "b"], types, "npe_f"⟩]
        positions := [.index 0, .index 1]
        defaults := [none, none] }
      implementations := [("npe_f", fun _ => .detach 0 fun _ => .pure (.literal (.int 0)))] }
    let p : Program := .call 0 [.array block, .array block] [] fun _ => .pure (.literal (.int 0))
    (p.run (callAt [d] 1) {}).2.views.map (fun v => (v.isValid, v.transferred)) =
      [(true, true), (false, false)] := by
  decide +kernel

end Dispatcher

end Monomorph
