import Monomorph.Proofs.Build.Product
import Monomorph.Proofs.Build.Run
import Monomorph.Proofs.Record

/-!
What a ledger knows. It takes a product if neither its function nor one of its outputs is entered
already, and it then holds those of the product as well. So in a run over sources it holds exactly what
the sources have that were entered before, and a source is refused because of one of these only.
-/

namespace Monomorph

/-- Has the source failed because its function is there already? -/
def Outcome.isDuplicate (o : Outcome) : Bool :=
  match o.result with
  | .error (.duplicate _ _ _) => true
  | _ => false

/-- Has the source failed because one of its outputs is there already? -/
def Outcome.isCollision (o : Outcome) : Bool :=
  match o.result with
  | .error (.collision _ _ _) => true
  | _ => false

/-- Do two products have an output in common? -/
def Product.Overlaps (p q : Product) : Prop := ∃ a ∈ p.artifacts, ∃ b ∈ q.artifacts, a.path = b.path

namespace Ledger

variable {l l' : Ledger} {source : Path} {p : Product} {artifacts : List Artifact}

/-- The names of the functions entered. -/
def names (l : Ledger) : List String := l.functions.map (·.1)

/-- The paths of the outputs entered. -/
def paths (l : Ledger) : List Path := l.outputs.map (·.1)

/-- Outputs are entered if all of them are new; otherwise the first that is not is the fault. -/
theorem claim_cases (l : Ledger) (source : Path) (artifacts : List Artifact) :
    (∀ a ∈ artifacts, a.path ∉ l.paths) ∧
      l.claim source artifacts =
        .ok { l with outputs := l.outputs ++ artifacts.map fun a => (a.path, source) } ∨
    (∃ a ∈ artifacts, a.path ∈ l.paths) ∧
      ∃ output owner, l.claim source artifacts = .error (.collision source output owner) := by
  unfold claim
  dsimp only
  cases hfind : artifacts.findSome? fun a =>
      (l.outputs.lookup a.path).map fun owner => BuildError.collision source a.path owner with
  | none =>
    refine .inl ⟨fun a ha => ?_, rfl⟩
    have hnone := List.findSome?_eq_none_iff.1 hfind a ha
    rwa [Option.map_eq_none_iff, Record.lookup_eq_none_iff] at hnone
  | some e =>
    obtain ⟨a, ha, hsome⟩ := List.exists_of_findSome?_eq_some hfind
    obtain ⟨owner, hlookup, rfl⟩ := Option.map_eq_some_iff.1 hsome
    refine .inr ⟨⟨a, ha, ?_⟩, a.path, owner, rfl⟩
    by_contra hnew
    rw [Record.lookup_eq_none_iff.2 hnew] at hlookup
    cases hlookup

/-- A product is entered if its function and all its outputs are new. A function that is not makes it a
duplicate, an output that is not makes it collide. -/
theorem define_cases (l : Ledger) (source : Path) (p : Product) :
    (p.function.name ∈ l.names ∧
      ∃ first, l.define source p = .error (.duplicate source p.function.name first)) ∨
    (p.function.name ∉ l.names ∧ (∃ a ∈ p.artifacts, a.path ∈ l.paths) ∧
      ∃ output owner, l.define source p = .error (.collision source output owner)) ∨
    (p.function.name ∉ l.names ∧ (∀ a ∈ p.artifacts, a.path ∉ l.paths) ∧ ∃ l', l.define source p = .ok l' ∧
      l'.names = l.names ++ [p.function.name] ∧ l'.paths = l.paths ++ p.artifacts.map (·.path)) := by
  unfold define
  cases hlookup : l.functions.lookup p.function.name with
  | some first =>
    refine .inl ⟨?_, first, rfl⟩
    by_contra hnew
    rw [Record.lookup_eq_none_iff.2 hnew] at hlookup
    cases hlookup
  | none =>
    have hname : p.function.name ∉ l.names := Record.lookup_eq_none_iff.1 hlookup
    rcases l.claim_cases source p.artifacts with ⟨hnew, hclaim⟩ | ⟨hold, output, owner, hclaim⟩
    · refine .inr (.inr ⟨hname, hnew, _, by rw [hclaim]; rfl, ?_, ?_⟩)
      · simp [names]
      · simp [paths]
    · exact .inr (.inl ⟨hname, hold, output, owner, by rw [hclaim]; rfl⟩)

theorem mem_names_of_define {n : String} (h : l.define source p = .ok l') :
    n ∈ l'.names ↔ n ∈ l.names ∨ p.function.name = n := by
  rcases l.define_cases source p with ⟨-, _, h'⟩ | ⟨-, -, _, _, h'⟩ | ⟨-, -, _, h', hnames, -⟩
  · rw [h] at h'
    cases h'
  · rw [h] at h'
    cases h'
  · rw [h] at h'
    cases h'
    rw [hnames, List.mem_append, List.mem_singleton, eq_comm (a := n)]

/-- What an artifact of another product finds in the ledger. -/
theorem exists_mem_paths_of_define {q : Product} (h : l.define source p = .ok l') :
    (∃ a ∈ q.artifacts, a.path ∈ l'.paths) ↔ (∃ a ∈ q.artifacts, a.path ∈ l.paths) ∨ p.Overlaps q := by
  rcases l.define_cases source p with ⟨-, _, h'⟩ | ⟨-, -, _, _, h'⟩ | ⟨-, -, _, h', -, hpaths⟩
  · rw [h] at h'
    cases h'
  · rw [h] at h'
    cases h'
  · rw [h] at h'
    cases h'
    rw [hpaths]
    constructor
    · rintro ⟨a, ha, hmem⟩
      rcases List.mem_append.1 hmem with hold | hnew
      · exact .inl ⟨a, ha, hold⟩
      · obtain ⟨b, hb, heq⟩ := List.mem_map.1 hnew
        exact .inr ⟨b, hb, a, ha, heq⟩
    · rintro (⟨a, ha, hold⟩ | ⟨b, hb, a, ha, heq⟩)
      · exact ⟨a, ha, List.mem_append_left _ hold⟩
      · exact ⟨a, ha, List.mem_append_right _ (heq ▸ List.mem_map_of_mem hb)⟩

end Ledger

namespace Build

variable {c : Config} {write : Bool} {l l₁ : Ledger} {w w₁ : Workspace} {source : Path}
  {sources rest : List Path} {o : Outcome} {outcomes : List Outcome} {i : Nat} {p : Product}

/-- The product of the source at a place of the list, as it is prepared after the sources before it. -/
def preparedAt? (c : Config) (write : Bool) (enter : Ledger → Path → Product → Except BuildError Ledger)
    (l : Ledger) (w : Workspace) (sources : List Path) (i : Nat) : Option Product :=
  sources[i]?.bind fun source =>
    match ((w.run (processAll c write enter l (sources.take i))).2.run (prepare c source)).1 with
    | .ok (.ok p) => some p
    | _ => none

section Prepared

variable {enter : Ledger → Path → Product → Except BuildError Ledger}

theorem preparedAt?_zero : preparedAt? c write enter l w (source :: rest) 0 = some p ↔
    (w.run (prepare c source)).1 = .ok (.ok p) := by
  rw [preparedAt?, List.take_zero, processAll, Workspace.run_pure, List.getElem?_cons_zero,
    Option.bind_some]
  split
  · next hprepare => simp [hprepare]
  · next hother =>
    constructor
    · intro h
      cases h
    · intro h
      exact absurd h (hother p)

/-- After a step the rest of the sources are run through. -/
theorem run_processAll_take_succ
    (step : w.run (processWith c write enter l source) = ((.ok o, l₁), w₁)) (i : Nat) :
    (w.run (processAll c write enter l ((source :: rest).take (i + 1)))).2 =
      (w₁.run (processAll c write enter l₁ (rest.take i))).2 := by
  rw [List.take_succ_cons, processAll, Workspace.run_bind, step]
  rfl

theorem preparedAt?_succ (step : w.run (processWith c write enter l source) = ((.ok o, l₁), w₁)) :
    preparedAt? c write enter l w (source :: rest) (i + 1) = preparedAt? c write enter l₁ w₁ rest i := by
  rw [preparedAt?, preparedAt?, run_processAll_take_succ step, List.getElem?_cons_succ]

end Prepared

/-- The product of the source at a place of the list, if it can be read, scanned, resolved, expanded and
rendered when its turn comes. -/
def productAt? (c : Config) (write : Bool) (l : Ledger) (w : Workspace) (sources : List Path) (i : Nat) :
    Option Product :=
  sources[i]?.bind fun source =>
    match ((w.run (processAll c write Ledger.define l (sources.take i))).2.run (prepare c source)).1 with
    | .ok (.ok p) => some p
    | _ => none

/-- The source at a place of the list has a product and comes to the point where it is committed. -/
structure CommitsAt (c : Config) (write : Bool) (l : Ledger) (w : Workspace) (sources : List Path)
    (outcomes : List Outcome) (i : Nat) (p : Product) : Prop where
  product : productAt? c write l w sources i = some p
  outcome : ∃ o, outcomes[i]? = some o ∧ o.Commits p

theorem productAt?_zero : productAt? c write l w (source :: rest) 0 = some p ↔
    (w.run (prepare c source)).1 = .ok (.ok p) := preparedAt?_zero

theorem productAt?_succ (step : w.run (processWith c write Ledger.define l source) = ((.ok o, l₁), w₁)) :
    productAt? c write l w (source :: rest) (i + 1) = productAt? c write l₁ w₁ rest i :=
  preparedAt?_succ step

theorem commitsAt_zero : CommitsAt c write l w (source :: rest) (o :: outcomes) 0 p ↔
    (w.run (prepare c source)).1 = .ok (.ok p) ∧ o.Commits p := by
  constructor
  · rintro ⟨hproduct, o', ho', hcommits⟩
    obtain rfl : o = o' := Option.some.inj ho'
    exact ⟨productAt?_zero.1 hproduct, hcommits⟩
  · rintro ⟨hproduct, hcommits⟩
    exact ⟨productAt?_zero.2 hproduct, o, rfl, hcommits⟩

theorem commitsAt_succ (step : w.run (processWith c write Ledger.define l source) = ((.ok o, l₁), w₁)) :
    CommitsAt c write l w (source :: rest) (o :: outcomes) (i + 1) p ↔
      CommitsAt c write l₁ w₁ rest outcomes i p := by
  constructor
  · rintro ⟨hproduct, houtcome⟩
    exact ⟨(productAt?_succ step).symm.trans hproduct, houtcome⟩
  · rintro ⟨hproduct, houtcome⟩
    exact ⟨(productAt?_succ step).trans hproduct, houtcome⟩

/-- What entering a product makes hold of the ledger holds after a step exactly if it held before, or the
source came to its commit with such a product. -/
theorem Fate.ledger_iff {R : Ledger → Prop} {r : Product → Prop}
    (henter : ∀ l source q l', l.define source q = .ok l' → (R l' ↔ R l ∨ r q))
    (h : Fate c Ledger.define l w source o l₁ w₁) :
    R l₁ ↔ R l ∨ ∃ q, ((w.run (prepare c source)).1 = .ok (.ok q) ∧ o.Commits q) ∧ r q := by
  cases h with
  | rejected prepared =>
    simp [prepared]
  | @refused p e _ prepared refuses =>
    have hother : ∀ target fault, e ≠ .unwritable target fault := by
      rintro target fault rfl
      rcases l.define_cases source p with ⟨-, first, h⟩ | ⟨-, -, output, owner, h⟩ | ⟨-, -, l', h, -⟩ <;>
        · rw [refuses] at h
          cases h
    have hnot : ∀ q, ¬ Outcome.Commits ⟨source, .error e, []⟩ q := by
      rintro q (hok | ⟨target, fault, hwrite⟩)
      · cases hok
      · exact hother target fault (Except.error.inj hwrite)
    simp [hnot]
  | @entered p _ _ _ prepared enters _ commits =>
    rw [henter _ _ _ _ enters]
    constructor
    · rintro (hold | hnew)
      · exact .inl hold
      · exact .inr ⟨p, ⟨prepared, commits⟩, hnew⟩
    · rintro (hold | ⟨q, ⟨hq, -⟩, hnew⟩)
      · exact .inl hold
      · rw [prepared] at hq
        cases hq
        exact .inr hnew

/-- The ledger when a source has its turn: what entering a product makes hold of it, holds if it held of
the first ledger, or a source before this one came to its commit with such a product. -/
theorem Run.exists_ledger {R : Ledger → Prop} {r : Product → Prop}
    (henter : ∀ l source q l', l.define source q = .ok l' → (R l' ↔ R l ∨ r q))
    (h : Run c write Ledger.define l w sources outcomes l₁ w₁) (ho : outcomes[i]? = some o)
    (hp : productAt? c write l w sources i = some p) :
    ∃ l' source, (R l' ↔ R l ∨ ∃ j < i, ∃ q, CommitsAt c write l w sources outcomes j q ∧ r q) ∧
      ((∃ e, l'.define source p = .error e ∧ o.result = .error e) ∨
        (∃ l'', l'.define source p = .ok l'') ∧ o.Commits p) := by
  induction h generalizing i with
  | nil => cases ho
  | @cons l l' l₁ w w' w₁ source rest first later step next ih =>
    have hfate := fate_of_processWith step
    cases i with
    | zero =>
      obtain rfl : first = o := Option.some.inj ho
      rw [productAt?_zero] at hp
      refine ⟨l, source, by simp, ?_⟩
      cases hfate with
      | rejected prepared =>
        rw [hp] at prepared
        cases prepared
      | refused prepared refuses =>
        rw [hp] at prepared
        cases prepared
        exact .inl ⟨_, refuses, rfl⟩
      | entered prepared enters _ commits =>
        rw [hp] at prepared
        cases prepared
        exact .inr ⟨⟨_, enters⟩, commits⟩
    | succ i =>
      rw [productAt?_succ step] at hp
      obtain ⟨l'', source', hR, hanswer⟩ := ih ho hp
      refine ⟨l'', source', ?_, hanswer⟩
      rw [hR, hfate.ledger_iff henter, or_assoc]
      refine or_congr_right ?_
      constructor
      · rintro (⟨q, hq, hr⟩ | ⟨j, hj, q, hq, hr⟩)
        · exact ⟨0, i.succ_pos, q, commitsAt_zero.2 hq, hr⟩
        · exact ⟨j + 1, Nat.succ_lt_succ hj, q, (commitsAt_succ step).2 hq, hr⟩
      · rintro ⟨j | j, hj, q, hq, hr⟩
        · exact .inl ⟨q, commitsAt_zero.1 hq, hr⟩
        · exact .inr ⟨j, Nat.lt_of_succ_lt_succ hj, q, (commitsAt_succ step).1 hq, hr⟩

end Build

end Monomorph
